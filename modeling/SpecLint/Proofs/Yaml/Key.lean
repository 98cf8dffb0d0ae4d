import Mathlib
import SpecLint.Proofs.Number.Text
import SpecLint.Proofs.Yaml.Conversion

/-!
Keys that become equal. Different numbers have different texts (`text_injective`), and none has that
of a truth value; two keys with one text are equal unless one of them is that text
(`HasText.eq_or_string`). So entries of a mapping are lost in the conversion to JSON only where a
text is a key beside the number or truth value that it spells (`keeps_entries_iff`).
-/

namespace SpecLint.Yaml

/-! ### Texts of numbers -/

namespace Number

theorem isDigit_or_eq_minus_of_mem {value : ℤ} {c : Char} (h : c ∈ (toString value).toList) :
    c.isDigit = true ∨ c = '-' := by
  rw [Int.toString_eq_repr, Int.repr_eq_if] at h
  split at h
  · rw [Nat.repr_eq_ofList_toDigits, String.toList_ofList] at h
    exact .inl (Nat.isDigit_of_mem_toDigits (by norm_num) (by norm_num) h)
  · rw [String.toList_append, Nat.repr_eq_ofList_toDigits] at h
    rcases List.mem_append.1 h with h | h
    · exact .inr (List.mem_singleton.1 h)
    · rw [String.toList_ofList] at h
      exact .inl (Nat.isDigit_of_mem_toDigits (by norm_num) (by norm_num) h)

/-- The text of a floating point number has a character that no integer has. -/
theorem exists_mem_text_float (value : Floating) :
    ∃ c ∈ (text (.float value)).toList, c.isDigit = false ∧ c ≠ '-' := by
  match value with
  | .finite x => exact Layout.exists_mem_yaml x
  | .infinity true => exact ⟨'.', by decide, rfl, by decide⟩
  | .infinity false => exact ⟨'.', by decide, rfl, by decide⟩
  | .notANumber => exact ⟨'.', by decide, rfl, by decide⟩

theorem text_int_ne_text_float {value : ℤ} {small : isSmall value = true} {x : Floating} :
    text (.int value small) ≠ text (.float x) := by
  intro h
  obtain ⟨c, hc, hdigit, hminus⟩ := exists_mem_text_float x
  rw [← h] at hc
  rcases isDigit_or_eq_minus_of_mem hc with hc | hc
  · exact Bool.false_ne_true (hdigit.symm.trans hc)
  · exact hminus hc

/-- A text that does not read as a decimal is not the text of a finite number. -/
theorem text_finite_ne {x : Binary64} {text : String} (h : Decimal.read? text.toList = none) :
    Number.text (.float (.finite x)) ≠ text := by
  rintro rfl
  obtain ⟨digits, power, hread, -⟩ := Layout.exists_read?_yaml x
  exact Option.some_ne_none _ (hread.symm.trans h)

theorem floating_text_injective {x y : Floating} (h : text (.float x) = text (.float y)) :
    x = y := by
  match x, y with
  | .finite x, .finite y => rw [Layout.yaml_injective h]
  | .finite x, .infinity negative => exact absurd h (text_finite_ne (by cases negative <;> rfl))
  | .finite x, .notANumber => exact absurd h (text_finite_ne rfl)
  | .infinity negative, .finite y =>
      exact absurd h.symm (text_finite_ne (by cases negative <;> rfl))
  | .notANumber, .finite y => exact absurd h.symm (text_finite_ne rfl)
  | .infinity a, .infinity b => revert h; cases a <;> cases b <;> decide
  | .infinity a, .notANumber => revert h; cases a <;> decide
  | .notANumber, .infinity b => revert h; cases b <;> decide
  | .notANumber, .notANumber => rfl

/-- Different numbers have different texts. -/
theorem text_injective : Function.Injective text := by
  intro a b h
  match a, b with
  | .int m _, .int n _ =>
      obtain rfl : m = n := Int.repr_inj.1 h
      rfl
  | .int _ _, .float _ => exact absurd h text_int_ne_text_float
  | .float _, .int _ _ => exact absurd h.symm text_int_ne_text_float
  | .float x, .float y => rw [floating_text_injective h]

end Number

/-! ### Keys with one text -/

namespace Value

variable {key other : Value} {keys : List Value} {names : List String} {text : String}

theorem HasText.unique {name : String} (h : key.HasText text) (h' : key.HasText name) :
    text = name := by
  rw [← keyText_eq_ok_iff] at h h'
  exact Except.ok.inj (h.symm.trans h')

theorem number_text_ne_toString (number : Number) (value : Bool) :
    number.text ≠ toString value := by
  match number with
  | .int n _ =>
      have hword : 'e' ∈ (toString value).toList := by cases value <;> decide
      intro h
      rw [← h] at hword
      rcases Number.isDigit_or_eq_minus_of_mem hword with he | he <;> exact absurd he (by decide)
  | .float (.finite x) => exact Number.text_finite_ne (by cases value <;> rfl)
  | .float (.infinity negative) => revert negative value; decide
  | .float .notANumber => revert value; decide

/-- Two keys with one text are equal, or one of them is that text. -/
theorem HasText.eq_or_string (h : key.HasText text) (h' : other.HasText text) :
    key = other ∨ key = .string text ∨ other = .string text := by
  cases h with
  | string => exact .inr (.inl rfl)
  | number number =>
      generalize htext : number.text = text at h'
      cases h' with
      | string => exact .inr (.inr rfl)
      | number other => exact .inl (congrArg Value.number (Number.text_injective htext))
      | boolean value => exact absurd htext (number_text_ne_toString number value)
  | boolean value =>
      generalize htext : toString value = text at h'
      cases h' with
      | string => exact .inr (.inr rfl)
      | number number => exact absurd htext.symm (number_text_ne_toString number value)
      | boolean other =>
          refine .inl (congrArg Value.boolean ?_)
          revert htext
          cases value <;> cases other <;> decide

theorem same_self_of_hasText (h : key.HasText text) : key.same key = true := by
  cases h with
  | string | boolean => simp [same]
  | number number =>
      rw [same]
      match number with
      | .int _ _ | .float (.finite _) | .float (.infinity _) | .float .notANumber =>
          simp [Number.same]

theorem nodup_of_hasRepeats (hnames : List.Forall₂ HasText keys names)
    (hdistinct : hasRepeats keys = false) : keys.Nodup := by
  induction hnames with
  | nil => exact List.nodup_nil
  | @cons key name keys names hname hnames ih =>
      rw [hasRepeats, Bool.or_eq_false_iff] at hdistinct
      refine List.nodup_cons.2 ⟨fun hmem => ?_, ih hdistinct.2⟩
      have hsame := List.any_eq_false.1 hdistinct.1 key hmem
      exact hsame (same_self_of_hasText hname)

/-- A key of the mapping is a text, and another key has the same text. -/
def HasTwins (entries : List (Value × Value)) : Prop :=
  ∃ text, Value.string text ∈ entries.map Prod.fst ∧
    ∃ key ∈ entries.map Prod.fst, key ≠ .string text ∧ key.HasText text

/-- The text of a key that has one. -/
def name (key : Value) : String := key.keyText.toOption.getD ""

theorem HasText.name_eq (h : key.HasText text) : key.name = text := by
  rw [name, keyText_eq_ok_iff.2 h]
  rfl

theorem hasText_name (h : List.Forall₂ HasText keys names) :
    names = keys.map name ∧ ∀ key ∈ keys, key.HasText key.name := by
  induction h with
  | nil => exact ⟨rfl, List.forall_mem_nil _⟩
  | cons hname _ ih =>
      rw [List.map_cons, ← ih.1, hname.name_eq, List.forall_mem_cons, hname.name_eq]
      exact ⟨rfl, hname, ih.2⟩

/-- The texts of keys that are different from each other are different unless one key is the text of
another. -/
theorem nodup_names_iff {entries : List (Value × Value)}
    (hnames : List.Forall₂ HasText (entries.map Prod.fst) names)
    (hdistinct : hasRepeats (entries.map Prod.fst) = false) : names.Nodup ↔ ¬HasTwins entries := by
  obtain ⟨hmap, htext⟩ := hasText_name hnames
  rw [hmap, List.nodup_map_iff_inj_on (nodup_of_hasRepeats hnames hdistinct)]
  constructor
  · rintro hinj ⟨text, hstring, key, hkey, hne, hkeyText⟩
    exact hne (hinj key hkey _ hstring (hkeyText.name_eq.trans (HasText.string text).name_eq.symm))
  · intro htwins key hkey other hother hname
    have hotherText : other.HasText key.name := hname ▸ htext other hother
    by_contra hne
    rcases (htext key hkey).eq_or_string hotherText with heq | hstring | hstring
    · exact hne heq
    · exact htwins ⟨key.name, hstring ▸ hkey, other, hother, fun h => hne (hstring.trans h.symm),
        hotherText⟩
    · exact htwins ⟨key.name, hstring ▸ hother, key, hkey, fun h => hne (h.trans hstring.symm),
        htext key hkey⟩

/-! ### Entries that are kept -/

/-- Of a mapping in a value that has a JSON form all entries are kept if and only if no text is a
key beside a number or truth value with that text; otherwise there are fewer members than
entries. -/
theorem keeps_entries_iff {value : Value} {form : Json} (h : value.toJson = .ok form)
    {entries : List (Value × Value)} (hpart : IsPart (.mapping entries) value)
    (hdistinct : hasRepeats (entries.map Prod.fst) = false) :
    ∃ members : Members, (Value.mapping entries).toJson = .ok (.object members) ∧
      members.length ≤ entries.length ∧
      (members.length = entries.length ↔ ¬HasTwins entries) ∧
      (¬HasTwins entries → ∀ entry ∈ entries, ∃ text inner, entry.1.HasText text ∧
        entry.2.toJson = .ok inner ∧ members.get? text = some inner) := by
  have hlike : (Value.mapping entries).IsJsonLike := (exists_toJson_iff.1 ⟨form, h⟩).of_isPart hpart
  obtain ⟨_, hmapping⟩ := exists_toJson_iff.2 hlike
  obtain ⟨pairs, hpairs, rfl⟩ := toJson_mapping_eq_ok_iff.1 hmapping
  have htexts := (entriesToJson_eq_ok_iff.1 hpairs).1
  have hlength : pairs.length = entries.length := by
    simpa [Members.keys] using htexts.length_eq.symm
  have hkept := nodup_names_iff htexts hdistinct
  refine ⟨Members.ofList pairs, hmapping, hlength ▸ Members.length_ofList_le pairs, ?_, ?_⟩
  · rw [← hlength, Members.length_ofList_eq_iff, hkept]
  · intro htwins entry hentry
    obtain ⟨⟨text, inner⟩, hmem, htext, hinner⟩ := exists_mem_of_entriesToJson_eq_ok hpairs hentry
    refine ⟨text, inner, htext, hinner, ?_⟩
    -- no later pair has the text of this one, so nothing is put in its place
    obtain ⟨earlier, later, rfl⟩ := List.append_of_mem hmem
    have hnodup := hkept.2 htwins
    rw [Members.keys, List.map_append, List.map_cons] at hnodup
    exact Members.get?_ofList_append_cons (List.nodup_cons.1 (List.nodup_append.1 hnodup).2.1).1

/-- Responses with the keys that documents give them: numbers of states, and a word. -/
def responses : List (Value × Value) :=
  [(.number (.int 404 rfl), .string "missing"), (.number (.int 200 rfl), .string "created"),
    (.string "default", .string "failed")]

theorem not_hasTwins_responses : ¬HasTwins responses := by
  rintro ⟨text, hstring, key, hkey, hne, htext⟩
  obtain rfl : text = "default" := by simpa [responses] using hstring
  have hkeys : key = .number (.int 404 rfl) ∨ key = .number (.int 200 rfl) := by
    simpa [responses, hne] using hkey
  rcases hkeys with rfl | rfl
  · exact absurd (htext.unique (.number _)) (by decide)
  · exact absurd (htext.unique (.number _)) (by decide)

theorem keeps_entries_iff_responses :
    (Value.sequence [.tagged "responses" (.mapping responses)]).toJson =
        .ok (.array [.object [("200", .string "created"), ("404", .string "missing"),
          ("default", .string "failed")]]) ∧
      IsPart (.mapping responses) (.sequence [.tagged "responses" (.mapping responses)]) ∧
      hasRepeats (responses.map Prod.fst) = false ∧ ¬HasTwins responses ∧
      ∃ members : Members, (Value.mapping responses).toJson = .ok (.object members) ∧
        members.length = responses.length := by
  have hpart : IsPart (.mapping responses) (.sequence [.tagged "responses" (.mapping responses)]) :=
    .inner List.mem_cons_self (.inner List.mem_cons_self .self)
  have hform : (Value.sequence [.tagged "responses" (.mapping responses)]).toJson = _ := rfl
  obtain ⟨members, hmembers, -, hkept, -⟩ := keeps_entries_iff hform hpart rfl
  exact ⟨hform, hpart, rfl, not_hasTwins_responses, members, hmembers,
    hkept.2 not_hasTwins_responses⟩

/-- Two schemas, the name of one a number and that of the other the text of that number. -/
def twinSchemas : List (Value × Value) :=
  [(.number (.int 404 rfl), .mapping [(.string "tax", .string "a text")]),
    (.string "404", .mapping [])]

/-- Of two schemas the first is lost without a word if its name is a number and the second has the
text of that number as its name. -/
theorem entry_lost_of_twins :
    ¬∀ (value : Value) (form : Json), value.toJson = .ok form →
      ∀ entries, IsPart (.mapping entries) value → hasRepeats (entries.map Prod.fst) = false →
        ∃ members : Members, (Value.mapping entries).toJson = .ok (.object members) ∧
          members.length = entries.length := by
  intro hkeeps
  have hform : (Value.mapping [(.string "schemas", .mapping twinSchemas)]).toJson =
      .ok (.object [("schemas", .object [("404", .object [])])]) := rfl
  have hpart : IsPart (.mapping twinSchemas)
      (.mapping [(.string "schemas", .mapping twinSchemas)]) := .inner List.mem_cons_self .self
  obtain ⟨members, hmembers, hlength⟩ := hkeeps _ _ hform twinSchemas hpart rfl
  have hlost : (Value.mapping twinSchemas).toJson = .ok (.object [("404", .object [])]) := rfl
  rw [hlost, Except.ok.injEq, Json.object.injEq] at hmembers
  rw [← hmembers] at hlength
  exact absurd hlength (by decide)

end Value

end SpecLint.Yaml
