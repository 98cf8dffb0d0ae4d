import Mathlib.Data.List.Forall2
import SpecLint.Proofs.Members
import SpecLint.Yaml.ToJson

/-!
YAML values as JSON values. `HasForm` tells node by node which form a value has, and the conversion
yields just that (`toJson_eq_ok_iff`). A value has a form if every number in it is finite and every
key in it is a text, a number or a truth value (`exists_toJson_iff`); its tags do not count
(`toJson_untagged`).
-/

namespace SpecLint.Yaml.Value

/-! ### Parts of values -/

/-- The values that stand directly in a value. The keys of a mapping do not count. -/
def children : Value → List Value
  | .sequence items => items
  | .mapping entries => entries.map Prod.snd
  | .tagged _ value => [value]
  | _ => []

theorem sizeOf_lt_of_mem_children {value child : Value} (h : child ∈ value.children) :
    sizeOf child < sizeOf value := by
  cases value with
  | sequence items =>
      have hlt : sizeOf child < sizeOf items := List.sizeOf_lt_of_mem h
      rw [sequence.sizeOf_spec]
      omega
  | mapping entries =>
      obtain ⟨⟨key, value⟩, hentry, rfl⟩ := List.mem_map.1 h
      have hlt := List.sizeOf_lt_of_mem hentry
      rw [Prod.mk.sizeOf_spec] at hlt
      rw [mapping.sizeOf_spec]
      dsimp only
      omega
  | tagged tag value =>
      rw [List.mem_singleton.1 h, tagged.sizeOf_spec]
      omega
  | null | boolean | number | string => cases h

/-- What holds of a value if it holds of its children holds of every value. The items of sequences
and the entries of mappings need no statement of their own. -/
@[elab_as_elim]
theorem induction_on_children {motive : Value → Prop} (value : Value)
    (step : ∀ value, (∀ child ∈ value.children, motive child) → motive value) : motive value :=
  step value fun child _ => induction_on_children child step
termination_by sizeOf value
decreasing_by exact sizeOf_lt_of_mem_children ‹_›

/-- A value is itself, or stands at some depth in the other. -/
inductive IsPart (part : Value) : Value → Prop where
  | self : IsPart part part
  | inner {value child : Value} (mem : child ∈ value.children) (h : IsPart part child) :
      IsPart part value

theorem isPart_iff {part value : Value} :
    part.IsPart value ↔ part = value ∨ ∃ child ∈ value.children, part.IsPart child := by
  constructor
  · rintro (_ | ⟨hmem, h⟩)
    · exact .inl rfl
    · exact .inr ⟨_, hmem, h⟩
  · rintro (rfl | ⟨child, hmem, h⟩)
    · exact .self
    · exact .inner hmem h

/-! ### Conversion of numbers, keys and lists -/

/-- An integer is converted as a signed or as an unsigned one, and keeps its value. -/
theorem numberToJson_int (value : Int) (small : isSmall value = true) :
    numberToJson (.int value small) = .ok (.number (.int value)) := by
  rw [numberToJson, Number.signed?, Number.unsigned?]
  by_cases hsigned : value ≤ 0x7FFFFFFFFFFFFFFF
  · rw [if_pos hsigned]
  · have hnonneg : 0 ≤ value := by omega
    rw [if_neg hsigned, if_pos hnonneg]
    simp only [Int.toNat_of_nonneg hnonneg]

/-- The text that stands for a key. Texts, numbers and truth values have one. -/
inductive HasText : Value → String → Prop where
  | string (text : String) : HasText (.string text) text
  | number (value : Number) : HasText (.number value) value.text
  | boolean (value : Bool) : HasText (.boolean value) (toString value)

theorem keyText_eq_ok_iff {key : Value} {text : String} :
    key.keyText = .ok text ↔ key.HasText text := by
  constructor
  · intro h
    match key with
    | .string text => cases h; constructor
    | .number value => cases h; constructor
    | .boolean true => cases h; exact .boolean true
    | .boolean false => cases h; exact .boolean false
  · rintro (_ | _ | value)
    · rfl
    · rfl
    · cases value <;> rfl

theorem itemsToJson_cons_eq_ok_iff {item : Value} {rest : List Value} {forms : List Json} :
    itemsToJson (item :: rest) = .ok forms ↔
      ∃ form more, item.toJson = .ok form ∧ itemsToJson rest = .ok more ∧ forms = form :: more := by
  rw [itemsToJson]
  cases item.toJson with
  | error error => simp
  | ok form => cases itemsToJson rest <;> simp [Except.map, eq_comm]

theorem itemsToJson_eq_ok_iff {items : List Value} {forms : List Json} :
    itemsToJson items = .ok forms ↔
      List.Forall₂ (fun item form => item.toJson = .ok form) items forms := by
  induction items generalizing forms with
  | nil => simp [itemsToJson, eq_comm]
  | cons item rest ih =>
      rw [itemsToJson_cons_eq_ok_iff, List.forall₂_cons_left_iff]
      simp only [ih, exists_and_left]

theorem entriesToJson_cons_eq_ok_iff {key value : Value} {rest : List (Value × Value)}
    {pairs : Members} :
    entriesToJson ((key, value) :: rest) = .ok pairs ↔
      ∃ text form more, key.HasText text ∧ value.toJson = .ok form ∧
        entriesToJson rest = .ok more ∧ pairs = (text, form) :: more := by
  simp only [← keyText_eq_ok_iff]
  rw [entriesToJson]
  cases key.keyText with
  | error error => simp
  | ok text =>
      cases value.toJson with
      | error error => simp
      | ok form => cases entriesToJson rest <;> simp [Except.map, eq_comm]

/-- Each entry becomes a pair of the text of its key and the form of its value. -/
theorem entriesToJson_eq_ok_iff {entries : List (Value × Value)} {pairs : Members} :
    entriesToJson entries = .ok pairs ↔
      List.Forall₂ HasText (entries.map Prod.fst) pairs.keys ∧
        List.Forall₂ (fun value form => value.toJson = .ok form)
          (entries.map Prod.snd) (pairs.map Prod.snd) := by
  induction entries generalizing pairs with
  | nil => simp [entriesToJson, Members.keys, eq_comm]
  | cons entry rest ih =>
      rw [entriesToJson_cons_eq_ok_iff]
      constructor
      · rintro ⟨text, form, more, htext, hform, hmore, rfl⟩
        obtain ⟨htexts, hforms⟩ := ih.1 hmore
        exact ⟨.cons htext htexts, .cons hform hforms⟩
      · rintro ⟨htexts, hforms⟩
        cases pairs with
        | nil => cases htexts
        | cons pair more =>
            obtain ⟨htext, htexts⟩ := List.forall₂_cons.1 htexts
            obtain ⟨hform, hforms⟩ := List.forall₂_cons.1 hforms
            exact ⟨pair.1, pair.2, more, htext, hform, ih.2 ⟨htexts, hforms⟩, rfl⟩

theorem exists_mem_of_entriesToJson_eq_ok {entries : List (Value × Value)} {pairs : Members}
    (h : entriesToJson entries = .ok pairs) {entry : Value × Value} (hentry : entry ∈ entries) :
    ∃ pair ∈ pairs, entry.1.HasText pair.1 ∧ entry.2.toJson = .ok pair.2 := by
  induction entries generalizing pairs with
  | nil => cases hentry
  | cons head rest ih =>
      obtain ⟨text, form, more, htext, hform, hmore, rfl⟩ := entriesToJson_cons_eq_ok_iff.1 h
      rcases List.mem_cons.1 hentry with rfl | hentry
      · exact ⟨_, List.mem_cons_self, htext, hform⟩
      · obtain ⟨pair, hmem, hpair⟩ := ih hmore hentry
        exact ⟨pair, List.mem_cons_of_mem _ hmem, hpair⟩

/-! ### The form of a value -/

/-- The form that a value has in JSON. A list keeps its items in their order, and an integer is kept
exactly. Each entry of a mapping becomes a pair of the text of its key and the form of its value; of
the pairs with one text the last counts. -/
inductive HasForm : Value → Json → Prop where
  | null : HasForm .null .null
  | boolean (value : Bool) : HasForm (.boolean value) (.boolean value)
  | int (value : Int) (small : isSmall value = true) :
      HasForm (.number (.int value small)) (.number (.int value))
  | float (value : Binary64) : HasForm (.number (.float (.finite value))) (.number (.float value))
  | string (text : String) : HasForm (.string text) (.string text)
  | sequence {items : List Value} {forms : List Json} (each : List.Forall₂ HasForm items forms) :
      HasForm (.sequence items) (.array forms)
  | mapping {entries : List (Value × Value)} {pairs members : Members}
      (texts : List.Forall₂ HasText (entries.map Prod.fst) pairs.keys)
      (forms : List.Forall₂ HasForm (entries.map Prod.snd) (pairs.map Prod.snd))
      (last : Members.HoldLast pairs members) : HasForm (.mapping entries) (.object members)
  | tagged {value : Value} {form : Json} (tag : String) (inner : HasForm value form) :
      HasForm (.tagged tag value) form

theorem forall₂_congr_left {α β : Type} {R S : α → β → Prop} {as : List α} {bs : List β}
    (h : ∀ a ∈ as, ∀ b, R a b ↔ S a b) : List.Forall₂ R as bs ↔ List.Forall₂ S as bs := by
  induction as generalizing bs with
  | nil => simp
  | cons a as ih =>
      simp only [List.forall₂_cons_left_iff, h a List.mem_cons_self,
        ih fun a ha => h a (List.mem_cons_of_mem _ ha)]

theorem numberToJson_eq_ok_iff {number : Number} {form : Json} :
    numberToJson number = .ok form ↔ HasForm (.number number) form := by
  constructor
  · intro h
    match number with
    | .int value small => rw [numberToJson_int] at h; cases h; constructor
    | .float (.finite value) => cases h; constructor
    | .float (.infinity negative) => cases h
    | .float .notANumber => cases h
  · rintro (_ | _)
    · exact numberToJson_int _ _
    · rfl

theorem toJson_sequence_eq_ok_iff {items : List Value} {form : Json} :
    (Value.sequence items).toJson = .ok form ↔
      ∃ forms, itemsToJson items = .ok forms ∧ form = .array forms := by
  rw [toJson]
  cases itemsToJson items <;> simp [Except.map, eq_comm]

theorem toJson_mapping_eq_ok_iff {entries : List (Value × Value)} {form : Json} :
    (Value.mapping entries).toJson = .ok form ↔
      ∃ pairs, entriesToJson entries = .ok pairs ∧ form = .mkObject pairs := by
  rw [toJson]
  cases entriesToJson entries <;> simp [Except.map, eq_comm]

/-- The conversion yields the form of a value, and fails if the value has none. -/
theorem toJson_eq_ok_iff {value : Value} {form : Json} :
    value.toJson = .ok form ↔ value.HasForm form := by
  induction value using induction_on_children generalizing form with
  | step value ih =>
      cases value with
      | null | boolean | string =>
          constructor
          · intro h; cases h; constructor
          · rintro ⟨⟩; rfl
      | number number => exact numberToJson_eq_ok_iff
      | sequence items =>
          have hitems (forms : List Json) :
              itemsToJson items = .ok forms ↔ List.Forall₂ HasForm items forms :=
            itemsToJson_eq_ok_iff.trans (forall₂_congr_left fun item hitem _ => ih item hitem)
          rw [toJson_sequence_eq_ok_iff]
          simp only [hitems]
          constructor
          · rintro ⟨forms, hforms, rfl⟩
            exact .sequence hforms
          · intro h
            cases h with
            | sequence each => exact ⟨_, each, rfl⟩
      | mapping entries =>
          -- the keys are no children: their texts do not come from a conversion
          have hentries (pairs : Members) : entriesToJson entries = .ok pairs ↔
              List.Forall₂ HasText (entries.map Prod.fst) pairs.keys ∧
                List.Forall₂ HasForm (entries.map Prod.snd) (pairs.map Prod.snd) :=
            entriesToJson_eq_ok_iff.trans <|
              and_congr_right' (forall₂_congr_left fun value hvalue _ => ih value hvalue)
          rw [toJson_mapping_eq_ok_iff]
          simp only [hentries]
          constructor
          · rintro ⟨pairs, ⟨htexts, hforms⟩, rfl⟩
            exact .mapping htexts hforms (Members.holdLast_ofList pairs)
          · intro h
            cases h with
            | mapping texts forms last =>
              exact ⟨_, ⟨texts, forms⟩, congrArg Json.object (Members.holdLast_iff.1 last)⟩
      | tagged tag value =>
          rw [toJson, ih value List.mem_cons_self]
          constructor
          · exact .tagged tag
          · intro h
            cases h with
            | tagged _ inner => exact inner

/-! ### Which values have a form -/

/-- The value alone, apart from its children, does not rule out a form: a number is finite, and the
keys of a mapping are texts, numbers or truth values. -/
def FitsJson : Value → Prop
  | .number (.float value) => ∃ x, value = .finite x
  | .mapping entries => ∀ entry ∈ entries, ∃ text, entry.1.HasText text
  | _ => True

/-- At every depth a number is finite, and a key is a text, a number or a truth value. -/
def IsJsonLike (value : Value) : Prop :=
  ∀ part, IsPart part value → part.FitsJson

theorem isJsonLike_iff {value : Value} :
    value.IsJsonLike ↔ value.FitsJson ∧ ∀ child ∈ value.children, child.IsJsonLike := by
  constructor
  · intro h
    exact ⟨h value .self, fun child hmem part hpart => h part (.inner hmem hpart)⟩
  · rintro ⟨hvalue, hchildren⟩ part hpart
    obtain rfl | ⟨child, hmem, hpart⟩ := isPart_iff.1 hpart
    · exact hvalue
    · exact hchildren child hmem part hpart

theorem IsJsonLike.of_isPart {part value : Value} (h : value.IsJsonLike)
    (hpart : IsPart part value) : part.IsJsonLike := by
  induction hpart with
  | self => exact h
  | inner mem _ ih => exact ih ((isJsonLike_iff.1 h).2 _ mem)

theorem exists_forall₂_iff {α β : Type} {R : α → β → Prop} {as : List α} :
    (∃ bs, List.Forall₂ R as bs) ↔ ∀ a ∈ as, ∃ b, R a b := by
  induction as with
  | nil => simp
  | cons a as ih =>
      rw [List.forall_mem_cons, ← ih]
      constructor
      · rintro ⟨_, _ | ⟨hb, hbs⟩⟩
        exact ⟨⟨_, hb⟩, _, hbs⟩
      · rintro ⟨⟨b, hb⟩, bs, hbs⟩
        exact ⟨b :: bs, .cons hb hbs⟩

theorem exists_hasForm_sequence_iff {items : List Value} :
    (∃ form, HasForm (.sequence items) form) ↔ ∀ item ∈ items, ∃ form, item.HasForm form := by
  rw [← exists_forall₂_iff]
  constructor
  · rintro ⟨_, _ | _ | _ | _ | _ | each⟩
    exact ⟨_, each⟩
  · rintro ⟨forms, each⟩
    exact ⟨_, .sequence each⟩

theorem exists_hasForm_mapping_iff {entries : List (Value × Value)} :
    (∃ form, HasForm (.mapping entries) form) ↔
      (∀ entry ∈ entries, ∃ text, entry.1.HasText text) ∧
        ∀ value ∈ entries.map Prod.snd, ∃ form, value.HasForm form := by
  rw [← List.forall_mem_map (f := Prod.fst) (P := fun key : Value => ∃ text, key.HasText text),
    ← exists_forall₂_iff, ← exists_forall₂_iff]
  constructor
  · rintro ⟨_, _ | _ | _ | _ | _ | _ | ⟨texts, forms, -⟩⟩
    exact ⟨⟨_, texts⟩, _, forms⟩
  · rintro ⟨⟨texts, htexts⟩, forms, hforms⟩
    have hlength : texts.length = forms.length := by
      rw [← htexts.length_eq, ← hforms.length_eq, List.length_map, List.length_map]
    refine ⟨_, .mapping ?_ ?_ (Members.holdLast_ofList (texts.zip forms))⟩
    · rwa [Members.keys, List.map_fst_zip (Nat.le_of_eq hlength)]
    · rwa [List.map_snd_zip (Nat.le_of_eq hlength.symm)]

theorem exists_hasForm_number_iff {number : Number} :
    (∃ form, HasForm (.number number) form) ↔ FitsJson (.number number) := by
  constructor
  · rintro ⟨_, _ | _⟩
    · trivial
    · exact ⟨_, rfl⟩
  · intro h
    match number, h with
    | .int value small, _ => exact ⟨_, .int value small⟩
    | .float _, ⟨value, rfl⟩ => exact ⟨_, .float value⟩

theorem exists_hasForm_iff {value : Value} : (∃ form, value.HasForm form) ↔ value.IsJsonLike := by
  induction value using induction_on_children with
  | step value ih =>
      have hchildren : (∀ child ∈ value.children, ∃ form, child.HasForm form) ↔
          ∀ child ∈ value.children, child.IsJsonLike :=
        forall₂_congr ih
      rw [isJsonLike_iff, ← hchildren]
      cases value with
      | null => exact iff_of_true ⟨_, .null⟩ ⟨trivial, List.forall_mem_nil _⟩
      | boolean value => exact iff_of_true ⟨_, .boolean value⟩ ⟨trivial, List.forall_mem_nil _⟩
      | string text => exact iff_of_true ⟨_, .string text⟩ ⟨trivial, List.forall_mem_nil _⟩
      | number number =>
          rw [exists_hasForm_number_iff]
          exact (and_iff_left (List.forall_mem_nil _)).symm
      | sequence items =>
          rw [exists_hasForm_sequence_iff]
          exact (and_iff_right trivial).symm
      | mapping entries => exact exists_hasForm_mapping_iff
      | tagged tag value =>
          constructor
          · rintro ⟨form, _ | _ | _ | _ | _ | _ | _ | ⟨_, inner⟩⟩
            exact ⟨trivial, List.forall_mem_singleton.2 ⟨form, inner⟩⟩
          · rintro ⟨-, h⟩
            obtain ⟨form, inner⟩ := List.forall_mem_singleton.1 h
            exact ⟨form, .tagged tag inner⟩

theorem exists_toJson_iff {value : Value} :
    (∃ form, value.toJson = .ok form) ↔ value.IsJsonLike := by
  simp only [toJson_eq_ok_iff, exists_hasForm_iff]

/-! ### Failures -/

theorem itemsToJson_cons_eq_error_iff {item : Value} {rest : List Value}
    {error : ConversionError} :
    itemsToJson (item :: rest) = .error error ↔
      item.toJson = .error error ∨
        ∃ form, item.toJson = .ok form ∧ itemsToJson rest = .error error := by
  rw [itemsToJson]
  cases item.toJson with
  | error first => simp
  | ok form => cases itemsToJson rest <;> simp [Except.map]

theorem entriesToJson_cons_eq_error_iff {key value : Value} {rest : List (Value × Value)}
    {error : ConversionError} :
    entriesToJson ((key, value) :: rest) = .error error ↔
      key.keyText = .error error ∨
        ∃ text, key.HasText text ∧ (value.toJson = .error error ∨
          ∃ form, value.toJson = .ok form ∧ entriesToJson rest = .error error) := by
  simp only [← keyText_eq_ok_iff]
  rw [entriesToJson]
  cases key.keyText with
  | error first => simp
  | ok text =>
      cases value.toJson with
      | error first => simp
      | ok form => cases entriesToJson rest <;> simp [Except.map]

/-- If a list has no form, that is due to one of its items. -/
theorem exists_of_itemsToJson_eq_error {items : List Value} {error : ConversionError}
    (h : itemsToJson items = .error error) : ∃ item ∈ items, item.toJson = .error error := by
  induction items with
  | nil => cases h
  | cons item rest ih =>
      rcases itemsToJson_cons_eq_error_iff.1 h with hitem | ⟨-, -, hrest⟩
      · exact ⟨item, List.mem_cons_self, hitem⟩
      · obtain ⟨later, hmem, hlater⟩ := ih hrest
        exact ⟨later, List.mem_cons_of_mem _ hmem, hlater⟩

theorem exists_of_entriesToJson_eq_error {entries : List (Value × Value)} {error : ConversionError}
    (h : entriesToJson entries = .error error) :
    ∃ entry ∈ entries, entry.1.keyText = .error error ∨ entry.2.toJson = .error error := by
  induction entries with
  | nil => cases h
  | cons entry rest ih =>
      rcases entriesToJson_cons_eq_error_iff.1 h with hkey | ⟨-, -, hvalue | ⟨-, -, hrest⟩⟩
      · exact ⟨entry, List.mem_cons_self, .inl hkey⟩
      · exact ⟨entry, List.mem_cons_self, .inr hvalue⟩
      · obtain ⟨later, hmem, hlater⟩ := ih hrest
        exact ⟨later, List.mem_cons_of_mem _ hmem, hlater⟩

theorem toJson_sequence_eq_error_iff {items : List Value} {error : ConversionError} :
    (Value.sequence items).toJson = .error error ↔ itemsToJson items = .error error := by
  rw [toJson]
  cases itemsToJson items <;> simp [Except.map]

theorem toJson_mapping_eq_error_iff {entries : List (Value × Value)} {error : ConversionError} :
    (Value.mapping entries).toJson = .error error ↔ entriesToJson entries = .error error := by
  rw [toJson]
  cases entriesToJson entries <;> simp [Except.map]

theorem keyText_ne_unsupported (key : Value) (number : String) :
    key.keyText ≠ .error (.unsupported number) := by
  intro h
  cases key <;> cases h

theorem numberToJson_ne_unsupported (number : Number) (text : String) :
    numberToJson number ≠ .error (.unsupported text) := by
  intro h
  match number with
  | .int value small => rw [numberToJson_int] at h; cases h
  | .float (.finite value) => cases h
  | .float (.infinity negative) => cases h
  | .float .notANumber => cases h

/-- Every number is an integer or a floating point number, so none is unsupported. -/
theorem toJson_ne_unsupported (value : Value) (number : String) :
    value.toJson ≠ .error (.unsupported number) := by
  induction value using induction_on_children with
  | step value ih =>
      intro h
      cases value with
      | null | boolean | string => cases h
      | number => exact numberToJson_ne_unsupported _ _ h
      | sequence items =>
          obtain ⟨item, hmem, hitem⟩ :=
            exists_of_itemsToJson_eq_error (toJson_sequence_eq_error_iff.1 h)
          exact ih item hmem hitem
      | mapping entries =>
          obtain ⟨entry, hmem, hkey | hvalue⟩ :=
            exists_of_entriesToJson_eq_error (toJson_mapping_eq_error_iff.1 h)
          · exact keyText_ne_unsupported _ _ hkey
          · exact ih entry.2 (List.mem_map_of_mem hmem) hvalue
      | tagged tag value => exact ih value List.mem_cons_self h

/-! ### Tags -/

mutual

/-- The value without its tags; those in keys stay. -/
def untagged : Value → Value
  | .sequence items => .sequence (untaggedItems items)
  | .mapping entries => .mapping (untaggedEntries entries)
  | .tagged _ value => untagged value
  | value => value

def untaggedItems : List Value → List Value
  | [] => []
  | item :: rest => untagged item :: untaggedItems rest

def untaggedEntries : List (Value × Value) → List (Value × Value)
  | [] => []
  | (key, value) :: rest => (key, untagged value) :: untaggedEntries rest

end

theorem untaggedItems_eq_map (items : List Value) : untaggedItems items = items.map untagged := by
  induction items with
  | nil => rfl
  | cons item rest ih => rw [untaggedItems, ih, List.map_cons]

theorem untaggedEntries_eq_map (entries : List (Value × Value)) :
    untaggedEntries entries = entries.map fun entry => (entry.1, entry.2.untagged) := by
  induction entries with
  | nil => rfl
  | cons entry rest ih => rw [untaggedEntries, ih, List.map_cons]

theorem itemsToJson_map {items : List Value} {f : Value → Value}
    (h : ∀ item ∈ items, (f item).toJson = item.toJson) :
    itemsToJson (items.map f) = itemsToJson items := by
  induction items with
  | nil => rfl
  | cons item rest ih =>
      rw [List.map_cons, itemsToJson, itemsToJson, h item List.mem_cons_self,
        ih fun item hitem => h item (List.mem_cons_of_mem _ hitem)]

theorem entriesToJson_map {entries : List (Value × Value)} {f : Value → Value}
    (h : ∀ value ∈ entries.map Prod.snd, (f value).toJson = value.toJson) :
    entriesToJson (entries.map fun entry => (entry.1, f entry.2)) = entriesToJson entries := by
  induction entries with
  | nil => rfl
  | cons entry rest ih =>
      rw [List.map_cons, entriesToJson, entriesToJson, h entry.2 List.mem_cons_self,
        ih fun value hvalue => h value (List.mem_cons_of_mem _ hvalue)]

/-- Without its tags a value has the same form, or fails in the same way. -/
theorem toJson_untagged (value : Value) : value.untagged.toJson = value.toJson := by
  induction value using induction_on_children with
  | step value ih =>
      cases value with
      | null | boolean | number | string => rfl
      | sequence items =>
          have hitems : itemsToJson (items.map untagged) = itemsToJson items := itemsToJson_map ih
          rw [untagged, toJson, toJson, untaggedItems_eq_map, hitems]
      | mapping entries =>
          rw [untagged, toJson, toJson, untaggedEntries_eq_map, entriesToJson_map ih]
      | tagged tag value =>
          rw [untagged, toJson]
          exact ih value List.mem_cons_self

theorem not_isPart_untagged (tag : String) (inner value : Value) :
    ¬IsPart (.tagged tag inner) value.untagged := by
  induction value using induction_on_children with
  | step value ih =>
      cases value with
      | tagged _ value =>
          rw [untagged]
          exact ih value List.mem_cons_self
      | sequence items =>
          rw [untagged, isPart_iff, untaggedItems_eq_map]
          rintro (heq | ⟨child, hmem, hpart⟩)
          · cases heq
          · obtain ⟨item, hitem, rfl⟩ := List.mem_map.1 hmem
            exact ih item hitem hpart
      | mapping entries =>
          rw [untagged, isPart_iff, untaggedEntries_eq_map]
          rintro (heq | ⟨child, hmem, hpart⟩)
          · cases heq
          · rw [children, List.map_map] at hmem
            obtain ⟨entry, hentry, rfl⟩ := List.mem_map.1 hmem
            exact ih entry.2 (List.mem_map_of_mem hentry) hpart
      | null | boolean | number | string =>
          intro h
          obtain heq | ⟨child, hmem, -⟩ := isPart_iff.1 h
          · cases heq
          · cases hmem

/-- The conversion to JSON is exact. It succeeds just if at every depth numbers are finite and keys
are texts, numbers or truth values; it never meets a number that is neither an integer nor a
floating point number; what it yields is the form of the value; and the tags of values do not count. -/
theorem toJson_exact (value : Value) :
    ((∃ form, value.toJson = .ok form) ↔ value.IsJsonLike) ∧
      (∀ number, value.toJson ≠ .error (.unsupported number)) ∧
      (∀ form, value.toJson = .ok form ↔ value.HasForm form) ∧
      (∀ tag inner, ¬IsPart (.tagged tag inner) value.untagged) ∧
      value.untagged.toJson = value.toJson :=
  ⟨exists_toJson_iff, toJson_ne_unsupported value, fun _ => toJson_eq_ok_iff,
    fun tag inner => not_isPart_untagged tag inner value, toJson_untagged value⟩

end SpecLint.Yaml.Value
