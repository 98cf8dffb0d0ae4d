import Mathlib.Data.Set.Card
import SpecLint.Proofs.Place
import SpecLint.Proofs.Schema.Keyword

/-!
Amounts that are no integers. The rule goes twice through a snapshot, through schemas and through
interfaces, and each time through four tables one inside the other, leaving out what is no object on
the way. What it reports are the wrong amounts of the snapshot (`CorpusSnapshot.HasWrongAmount`),
each of them once and in order: `Amount` says where a property stands, `check_amountType_eq` that
the rule makes one finding of each wrong amount, and `mem_wrongAmounts_iff` which these are.
-/

namespace SpecLint

open Rule Schema

/-- The node says itself of which type it is, and says anything but that it is an integer. -/
structure Schema.Node.IsNotInteger (node : Node) : Prop where
  no_reference : node.Omits "$ref"
  not_composed : ∀ kind : Composition, node.Omits kind.keyword
  type_ne : node.get? "type" ≠ some (.string "integer")

theorem Rule.isWrongAmount_iff {property : Node} :
    isWrongAmount property = true ↔ property.IsNotInteger := by
  rw [isWrongAmount, Bool.and_eq_true, Bool.not_eq_true', Bool.not_eq_true', ← Bool.not_eq_true
    (Option.any _ _), Node.declaresOnly_iff (by decide), Node.isIndirect_eq_false_iff]
  constructor
  · rintro ⟨⟨hreference, hcomposed⟩, htype⟩
    exact ⟨hreference, hcomposed, htype⟩
  · rintro ⟨hreference, hcomposed, htype⟩
    exact ⟨⟨hreference, hcomposed⟩, htype⟩

/-- A property that may hold an amount, and where it stands: in the artifact of a kind, directly
below a definition. -/
structure Amount where
  kind : ArtifactKind
  place : Place
  field : String
  property : Node

namespace Amount

def finding (amount : Amount) : Finding :=
  amountFinding amount.place.version amount.place.family amount.kind amount.place.name amount.field
    amount.property

/-- Properties in schemas come before those in interfaces; among either, the order is that of the
places of definitions, and below a definition that of the names of properties. -/
inductive Before (a b : Amount) : Prop
  | kind (ha : a.kind = .jsonSchema) (hb : b.kind = .openApi)
  | place (hkind : a.kind = b.kind) (h : a.place.Before b.place)
  | field (hkind : a.kind = b.kind) (hplace : a.place = b.place) (h : a.field < b.field)

theorem before_irrefl (amount : Amount) : ¬amount.Before amount := by
  intro h
  cases h with
  | kind ha hb => cases ha.symm.trans hb
  | place _ h => exact amount.place.before_irrefl h
  | field _ _ h => exact String.lt_irrefl _ h

instance : Std.Irrefl Before := ⟨before_irrefl⟩

end Amount

namespace CorpusSnapshot

variable {config : Config} {snapshot : CorpusSnapshot} {kind : ArtifactKind} {place : Place}
  {definition : Json} {amount : Amount}

/-- The property of a name directly below the definition at a place. -/
def property? (snapshot : CorpusSnapshot) (kind : ArtifactKind) (place : Place) (field : String) :
    Option Node :=
  ((snapshot.definition? kind place).bind Node.ofJson?).bind (·.property? field)

/-- A property with the name of an amount stands in a schema or in an interface of the snapshot, and
is no integer. -/
structure HasWrongAmount (snapshot : CorpusSnapshot) (config : Config) (amount : Amount) :
    Prop where
  kind_ne : amount.kind ≠ .examples
  property_eq : snapshot.property? amount.kind amount.place amount.field = some amount.property
  isAmount : amount.field ∈ config.amountFields
  not_integer : amount.property.IsNotInteger

/-- The wrong amounts below a definition, in order. -/
def wrongAmountsBelow (config : Config) (kind : ArtifactKind) (place : Place) (definition : Json) :
    List Amount :=
  match Node.ofJson? definition with
  | none => []
  | some node =>
    (node.properties.filter fun (field, property) =>
      config.isAmountField field && isWrongAmount property).map fun (field, property) =>
        ⟨kind, place, field, property⟩

/-- The wrong amounts in the artifacts of a kind, in order. -/
def wrongAmountsIn (snapshot : CorpusSnapshot) (config : Config) (kind : ArtifactKind) :
    List Amount :=
  (snapshot.definitions kind).flatMap fun row => wrongAmountsBelow config kind row.1 row.2

/-- The wrong amounts of a snapshot, in order. -/
def wrongAmounts (snapshot : CorpusSnapshot) (config : Config) : List Amount :=
  snapshot.wrongAmountsIn config .jsonSchema ++ snapshot.wrongAmountsIn config .openApi

theorem mem_wrongAmountsBelow_iff (h : snapshot.definition? kind place = some definition) :
    amount ∈ wrongAmountsBelow config kind place definition ↔
      amount.kind = kind ∧ amount.place = place ∧
        snapshot.property? kind place amount.field = some amount.property ∧
        amount.field ∈ config.amountFields ∧ amount.property.IsNotInteger := by
  obtain ⟨_, _, field, property⟩ := amount
  rw [wrongAmountsBelow, property?, h, Option.bind_some]
  cases hnode : Node.ofJson? definition with
  | none => simp
  | some node =>
      have hcanonical := Node.canonical_of_ofJson? (canonical_of_definition? h) hnode
      simp only [List.mem_map, List.mem_filter, Prod.exists, Amount.mk.injEq, Bool.and_eq_true,
        Node.mem_properties_iff hcanonical, isWrongAmount_iff, Config.isAmountField,
        List.contains_iff_mem, Option.bind_some]
      constructor
      · rintro ⟨_, _, ⟨hproperty, hfield, hwrong⟩, rfl, rfl, rfl, rfl⟩
        exact ⟨rfl, rfl, hproperty, hfield, hwrong⟩
      · rintro ⟨rfl, rfl, hproperty, hfield, hwrong⟩
        exact ⟨field, property, ⟨hproperty, hfield, hwrong⟩, rfl, rfl, rfl, rfl⟩

theorem mem_wrongAmountsIn_iff :
    amount ∈ snapshot.wrongAmountsIn config kind ↔
      amount.kind = kind ∧
        snapshot.property? kind amount.place amount.field = some amount.property ∧
        amount.field ∈ config.amountFields ∧ amount.property.IsNotInteger := by
  simp only [wrongAmountsIn, List.mem_flatMap, Prod.exists, mem_definitions_iff]
  constructor
  · rintro ⟨place, definition, hdefinition, hamount⟩
    obtain ⟨hkind, rfl, hwrong⟩ := (mem_wrongAmountsBelow_iff hdefinition).1 hamount
    exact ⟨hkind, hwrong⟩
  · rintro ⟨hkind, hproperty, hwrong⟩
    obtain ⟨node, hnode, -⟩ := Option.bind_eq_some_iff.1 hproperty
    obtain ⟨definition, hdefinition, -⟩ := Option.bind_eq_some_iff.1 hnode
    exact ⟨amount.place, definition, hdefinition,
      (mem_wrongAmountsBelow_iff hdefinition).2 ⟨hkind, rfl, hproperty, hwrong⟩⟩

theorem mem_wrongAmounts_iff :
    amount ∈ snapshot.wrongAmounts config ↔ snapshot.HasWrongAmount config amount := by
  rw [wrongAmounts, List.mem_append, mem_wrongAmountsIn_iff, mem_wrongAmountsIn_iff]
  constructor
  · rintro (⟨hkind, hproperty, hfield, hwrong⟩ | ⟨hkind, hproperty, hfield, hwrong⟩)
    · exact ⟨by simp [hkind], hkind ▸ hproperty, hfield, hwrong⟩
    · exact ⟨by simp [hkind], hkind ▸ hproperty, hfield, hwrong⟩
  · rintro ⟨hkind, hproperty, hfield, hwrong⟩
    cases hartifact : amount.kind with
    | jsonSchema => exact Or.inl ⟨rfl, hartifact ▸ hproperty, hfield, hwrong⟩
    | openApi => exact Or.inr ⟨rfl, hartifact ▸ hproperty, hfield, hwrong⟩
    | examples => exact absurd hartifact hkind

theorem pairwise_wrongAmountsBelow (h : definition.Canonical) :
    (wrongAmountsBelow config kind place definition).Pairwise Amount.Before := by
  unfold wrongAmountsBelow
  cases hnode : Node.ofJson? definition with
  | none => exact .nil
  | some node =>
      have hordered := Node.pairwise_properties (Node.canonical_of_ofJson? h hnode)
      exact List.pairwise_map.2 ((hordered.filter _).imp fun hlt => .field rfl rfl hlt)

theorem pairwise_wrongAmountsIn (snapshot : CorpusSnapshot) (config : Config)
    (kind : ArtifactKind) : (snapshot.wrongAmountsIn config kind).Pairwise Amount.Before := by
  refine List.pairwise_flatMap.2 ⟨?_, (snapshot.pairwise_definitions kind).imp_of_mem ?_⟩
  · rintro ⟨place, definition⟩ hmem
    exact pairwise_wrongAmountsBelow (canonical_of_definition? (mem_definitions_iff.1 hmem))
  · rintro ⟨place, definition⟩ ⟨place', definition'⟩ hmem hmem' hbefore a ha b hb
    obtain ⟨hkind, hplace, -⟩ := (mem_wrongAmountsBelow_iff (mem_definitions_iff.1 hmem)).1 ha
    obtain ⟨hkind', hplace', -⟩ := (mem_wrongAmountsBelow_iff (mem_definitions_iff.1 hmem')).1 hb
    exact .place (hkind.trans hkind'.symm) (hplace ▸ hplace' ▸ hbefore)

theorem pairwise_wrongAmounts (snapshot : CorpusSnapshot) (config : Config) :
    (snapshot.wrongAmounts config).Pairwise Amount.Before := by
  refine List.pairwise_append.2 ⟨snapshot.pairwise_wrongAmountsIn config _,
    snapshot.pairwise_wrongAmountsIn config _, fun a ha b hb => ?_⟩
  exact .kind (mem_wrongAmountsIn_iff.1 ha).1 (mem_wrongAmountsIn_iff.1 hb).1

end CorpusSnapshot

/-! ### The rule -/

namespace Rule

theorem wrongAmounts_eq (config : Config) (kind : ArtifactKind) (index : Nat)
    (version : VersionTag) (family : Family) (definitions : Members) :
    wrongAmounts config version family kind definitions =
      definitions.flatMap fun row =>
        (CorpusSnapshot.wrongAmountsBelow config kind ⟨index, version, family, row.1⟩ row.2).map
          Amount.finding := by
  refine List.flatMap_congr ?_
  rintro ⟨name, definition⟩ -
  unfold CorpusSnapshot.wrongAmountsBelow
  dsimp only
  cases Node.ofJson? definition with
  | none => rfl
  | some node => simp [Amount.finding, Function.comp_def]

theorem schemaAmounts_eq (config : Config) (version : VersionTag) (family : Family)
    (artifacts : FamilyArtifacts) :
    schemaAmounts config version family artifacts =
      wrongAmounts config version family .jsonSchema (artifacts.definitions .jsonSchema) := by
  unfold schemaAmounts FamilyArtifacts.definitions
  cases artifacts.jsonSchema.document? <;> rfl

theorem interfaceAmounts_eq (config : Config) (version : VersionTag) (family : Family)
    (artifacts : FamilyArtifacts) :
    interfaceAmounts config version family artifacts =
      wrongAmounts config version family .openApi (artifacts.definitions .openApi) := by
  unfold interfaceAmounts FamilyArtifacts.definitions
  cases artifacts.openApi.document? <;> rfl

/-- Going through artifacts of one kind for wrong amounts meets those of the kind. -/
theorem inVersions_wrongAmounts_eq (config : Config) (snapshot : CorpusSnapshot)
    (kind : ArtifactKind) {found : VersionTag → Family → FamilyArtifacts → List Finding}
    (h : ∀ version family artifacts, found version family artifacts =
      wrongAmounts config version family kind (artifacts.definitions kind)) :
    (snapshot.inVersions fun entry => entry.inFamilies (found entry.version)) =
      (snapshot.wrongAmountsIn config kind).map Amount.finding := by
  rw [CorpusSnapshot.wrongAmountsIn, List.map_flatMap]
  refine CorpusSnapshot.inVersions_inFamilies_eq kind
    (fun place definition =>
      (CorpusSnapshot.wrongAmountsBelow config kind place definition).map Amount.finding)
    fun index version family artifacts _ => ?_
  rw [h, wrongAmounts_eq config kind index]

/-- The rule makes one finding of each wrong amount. -/
theorem check_amountType_eq (config : Config) (snapshot : CorpusSnapshot) :
    amountType.check snapshot config = (snapshot.wrongAmounts config).map Amount.finding := by
  rw [CorpusSnapshot.wrongAmounts, List.map_append,
    ← inVersions_wrongAmounts_eq config snapshot .jsonSchema (schemaAmounts_eq config),
    ← inVersions_wrongAmounts_eq config snapshot .openApi (interfaceAmounts_eq config)]
  rfl

/-- Only which names are amounts matters, not how they are listed. -/
theorem check_amountType_congr {config other : Config}
    (h : ∀ name, name ∈ other.amountFields ↔ name ∈ config.amountFields)
    (snapshot : CorpusSnapshot) :
    amountType.check snapshot other = amountType.check snapshot config := by
  have hamount : other.isAmountField = config.isAmountField := by
    funext name
    rw [Bool.eq_iff_iff, Config.isAmountField, Config.isAmountField, List.contains_iff_mem,
      List.contains_iff_mem, h]
  have hbelow : CorpusSnapshot.wrongAmountsBelow other =
      CorpusSnapshot.wrongAmountsBelow config := by
    funext kind place definition
    rw [CorpusSnapshot.wrongAmountsBelow, CorpusSnapshot.wrongAmountsBelow, hamount]
  rw [check_amountType_eq, check_amountType_eq, CorpusSnapshot.wrongAmounts,
    CorpusSnapshot.wrongAmounts]
  simp only [CorpusSnapshot.wrongAmountsIn, hbelow]

end Rule

/-- The rule for amounts finds one error for each property with the name of an amount that does not
leave its type to others and does not say that it is an integer and nothing else: a list of types
that has `integer` in it, no type, the empty name and what is no type at all are as wrong as another
type. The errors come in the order in which these properties stand in schemas and then in
interfaces, there are as many as such properties, and how the names of amounts are listed does not
matter. -/
theorem amount_findings_exact (config : Config) (snapshot : CorpusSnapshot) :
    (∃ amounts : List Amount, amountType.check snapshot config = amounts.map Amount.finding ∧
      amounts.Pairwise Amount.Before ∧
      ∀ amount, amount ∈ amounts ↔ snapshot.HasWrongAmount config amount) ∧
    (∀ finding ∈ amountType.check snapshot config, finding.severity = .error) ∧
    (amountType.check snapshot config).length =
      {amount | snapshot.HasWrongAmount config amount}.ncard ∧
    ∀ other : Config, (∀ name, name ∈ other.amountFields ↔ name ∈ config.amountFields) →
      amountType.check snapshot other = amountType.check snapshot config := by
  have hordered := snapshot.pairwise_wrongAmounts config
  refine ⟨⟨snapshot.wrongAmounts config, check_amountType_eq config snapshot, hordered,
    fun amount => CorpusSnapshot.mem_wrongAmounts_iff⟩, fun finding hfinding => ?_, ?_,
    fun other hother => check_amountType_congr hother snapshot⟩
  · rw [check_amountType_eq] at hfinding
    obtain ⟨amount, -, rfl⟩ := List.mem_map.1 hfinding
    rfl
  · classical
    have hset : {amount | snapshot.HasWrongAmount config amount} =
        ((snapshot.wrongAmounts config).toFinset : Set Amount) := by
      ext amount
      simp [CorpusSnapshot.mem_wrongAmounts_iff]
    rw [check_amountType_eq, List.length_map, hset, Set.ncard_coe_finset,
      List.toFinset_card_of_nodup hordered.nodup]

def taxedCart : Json :=
  .object [("properties", .object
    [("tax", .object [("type", .array [.string "integer", .string "null"])]),
      ("total", .object [("type", .string "integer")])])]

/-- A cart with a tax that may be null, defined in schema and interface. -/
def taxedArtifacts : FamilyArtifacts :=
  have hcanonical : taxedCart.Canonical := Json.canonical_canonicalize taxedCart
  .ofDefinitions "Cart" taxedCart taxedCart hcanonical hcanonical

/-- The tax is the one wrong amount on either side, however often it is listed as one. -/
theorem amount_findings_exact_tax :
    let config : Config := { Config.standard with amountFields := ["tax", "total"] }
    let other : Config := { Config.standard with amountFields := ["total", "tax", "total", "tax"] }
    let snapshot : CorpusSnapshot :=
      ⟨[⟨.unreleased, true, FamilyTable.empty.insert .agenticCheckout taxedArtifacts⟩]⟩
    let texts :=
      ["ERROR: Amount field \"tax\" in Cart has type \"integer,null\" instead of \"integer\"",
        "ERROR: Amount field \"tax\" in Cart (OpenAPI) has type \"integer,null\" instead of " ++
          "\"integer\""]
    (∀ name, name ∈ other.amountFields ↔ name ∈ config.amountFields) ∧
      (amountType.check snapshot config).map Finding.text = texts ∧
      {amount | snapshot.HasWrongAmount config amount}.ncard = 2 ∧
      amountType.check snapshot other = amountType.check snapshot config := by
  intro config other snapshot texts
  obtain ⟨-, -, hcount, hother⟩ := amount_findings_exact config snapshot
  have hnames : ∀ name, name ∈ other.amountFields ↔ name ∈ config.amountFields := by
    intro name
    simp only [config, other, List.mem_cons, List.not_mem_nil]
    tauto
  have htext : (amountType.check snapshot config).map Finding.text = texts := by
    decide +kernel
  have hlength : (amountType.check snapshot config).length = 2 := by
    rw [← List.length_map Finding.text, htext]
    rfl
  exact ⟨hnames, htext, hcount.symm.trans hlength, hother other hnames⟩

end SpecLint
