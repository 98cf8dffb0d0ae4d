import SpecLint.Proofs.Schema.Keyword
import SpecLint.Proofs.Schema.Walk

/-!
Exemptions of a walk. Without any, a node needs a description if it declares a type, is not
described, and neither lists its values nor is composed of others (`Node.IsUndescribed`). Each of
the two options makes an exception: the one of the schema at which the walk starts, the other of
references. Although both are consulted at every node and the second depends on what carries the
meaning of the node, they come down to filters on what a walk without exemptions finds
(`missingDescriptions_eq_filter`): one looks at the path, the other at the node to which it leads.
-/

namespace SpecLint.Schema

/-- The node declares a type, is not described, and carries its meaning itself. -/
structure Node.IsUndescribed (node : Node) : Prop where
  declaresType : node.DeclaresType
  not_described : ¬node.IsDescribed
  no_enum : node.Omits "enum"
  no_const : node.get? "const" = none
  not_composed : ∀ kind : Composition, node.Omits kind.keyword

theorem Node.isUndescribed_iff {node : Node} :
    node.IsUndescribed ↔ node.declaredType?.isSome = true ∧ node.description?.isSome = false ∧
      node.isEnumerated = false ∧ node.composition? = none := by
  rw [isSome_declaredType?_iff, ← Bool.not_eq_true, isSome_description?_iff,
    isEnumerated_eq_false_iff, composition?_eq_none_iff]
  constructor
  · rintro ⟨htype, hdescribed, henum, hconst, hcomposed⟩
    exact ⟨htype, hdescribed, ⟨henum, hconst⟩, hcomposed⟩
  · rintro ⟨htype, hdescribed, ⟨henum, hconst⟩, hcomposed⟩
    exact ⟨htype, hdescribed, henum, hconst, hcomposed⟩

/-- The options make an exception of a node at the end of a path: of the schema itself, or of a
reference. -/
def WalkOptions.Skips (options : WalkOptions) (node : Node) (path : FieldPath) : Prop :=
  options.skipTopLevel = true ∧ path.isRoot = true ∨
    options.skipRefs = true ∧ ∃ target, node.get? "$ref" = some (.string target)

/-- A node needs a description if it has none, unless the options make an exception of it. -/
theorem lacksDescription_iff {options : WalkOptions} {node : Node} {path : FieldPath} :
    lacksDescription options node path = true ↔
      node.IsUndescribed ∧ ¬options.Skips node path := by
  have hreference : (∃ target, node.get? "$ref" = some (.string target)) ↔
      node.reference?.isSome = true := by
    simp only [← Node.text_get?_eq_some_iff, Option.isSome_iff_exists, Node.reference?]
  simp only [Node.isUndescribed_iff, WalkOptions.Skips, hreference, lacksDescription, Node.shape]
  cases node.declaredType? with
  | none => simp
  | some declared =>
      cases node.description? with
      | some text => simp
      | none =>
          cases node.isEnumerated with
          | true => simp
          | false =>
              cases node.composition? with
              | some kind => simp
              | none =>
                  cases node.reference? with
                  | some target => cases options.skipTopLevel <;> simp
                  | none =>
                      -- What is left is an object, an array or a leaf, and none of these is exempt.
                      dsimp only
                      cases declared.isOnly "object" <;> cases declared.isOnly "array" <;>
                        cases options.skipTopLevel <;> simp

/-- If one predicate flags what another flags and a filter keeps, then one walk finds what the
filter keeps of the other. -/
theorem walk_eq_filter {value : Json} (hvalue : value.Canonical) {start : FieldPath}
    {flagged chosen : Node → FieldPath → Bool} {keep : FieldPath → Bool}
    (h : ∀ segments node, FieldPath.resolve? ⟨start.label, segments⟩ value = some node →
      chosen node (start.extend segments) =
        (flagged node (start.extend segments) && keep (start.extend segments))) :
    walk value start chosen = (walk value start flagged).filter keep := by
  rw [walk_eq, walk_eq]
  cases hroot : Node.ofJson? value with
  | none => rfl
  | some root =>
      have hcanonical := Node.canonical_of_ofJson? hvalue hroot
      simp only [FieldPath.resolve?, hroot, Option.bind_some] at h
      simp only [flaggedPaths, List.filter_map, List.filter_filter]
      congr 1
      refine List.filter_congr fun visit hvisit => ?_
      obtain ⟨segments, hpath, hfollow⟩ := (mem_visits_iff hcanonical).1 hvisit
      show chosen visit.1 visit.2 = (keep visit.2 && flagged visit.1 visit.2)
      rw [hpath, h segments visit.1 hfollow, Bool.and_comm]

/-! ### The options as filters -/

def Shape.target? : Shape → Option String
  | .reference target => some target
  | .enumerated | .composite _ | .object | .array | .leaf _ | .untyped => none

theorem Shape.target?_eq_some_iff {shape : Shape} {target : String} :
    shape.target? = some target ↔ shape = .reference target := by
  cases shape <;> simp [target?]

/-- The path leads to a node that carries its meaning by a reference. -/
def FieldPath.LeadsToReference (path : FieldPath) (value : Json) : Prop :=
  ∃ node target, path.resolve? value = some node ∧ node.shape = .reference target

instance (path : FieldPath) (value : Json) : Decidable (path.LeadsToReference value) :=
  decidable_of_iff (((path.resolve? value).bind fun node => node.shape.target?).isSome = true) <| by
    simp only [Option.isSome_iff_exists, Option.bind_eq_some_iff, Shape.target?_eq_some_iff,
      FieldPath.LeadsToReference]
    exact ⟨fun ⟨target, node, h⟩ => ⟨node, target, h⟩, fun ⟨node, target, h⟩ => ⟨target, node, h⟩⟩

/-- The options make an exception of what a path leads to. -/
def WalkOptions.Exempts (options : WalkOptions) (value : Json) (path : FieldPath) : Prop :=
  options.skipTopLevel = true ∧ path = .root path.label ∨
    options.skipRefs = true ∧ path.LeadsToReference value

instance (options : WalkOptions) (value : Json) (path : FieldPath) :
    Decidable (options.Exempts value path) :=
  inferInstanceAs (Decidable (_ ∨ _))

theorem FieldPath.isRoot_iff {path : FieldPath} :
    path.isRoot = true ↔ path = .root path.label := by
  obtain ⟨label, segments⟩ := path
  simp [isRoot, root]

/-- Of a node that needs a description, it is the same whether one asks what carries its meaning or
whether it has a reference. -/
theorem WalkOptions.exempts_iff_skips {options : WalkOptions} {value : Json} {path : FieldPath}
    {node : Node} (hpath : path.resolve? value = some node) (h : node.IsUndescribed) :
    options.Exempts value path ↔ options.Skips node path := by
  have hreference : path.LeadsToReference value ↔
      ∃ target, node.get? "$ref" = some (.string target) := by
    simp only [FieldPath.LeadsToReference, hpath, Option.some.injEq, exists_and_left,
      exists_eq_left', Node.shape_eq_reference_iff]
    exact ⟨fun hshape => hshape.2.2.2, fun hget => ⟨h.no_enum, h.no_const, h.not_composed, hget⟩⟩
  rw [Exempts, Skips, hreference, FieldPath.isRoot_iff]

theorem missingDescriptions_eq_filter_exempts {value : Json} (hvalue : value.Canonical)
    (label : String) (options : WalkOptions) :
    missingDescriptions value (.root label) options =
      (missingDescriptions value (.root label) .jsonSchema).filter fun path =>
        ¬options.Exempts value path := by
  refine walk_eq_filter hvalue fun segments node hnode => ?_
  have hnone : ∀ path, ¬WalkOptions.jsonSchema.Skips node path := by
    simp [WalkOptions.Skips, WalkOptions.jsonSchema]
  rw [Bool.eq_iff_iff, Bool.and_eq_true, decide_eq_true_eq, lacksDescription_iff,
    lacksDescription_iff, and_iff_left (hnone _)]
  refine and_congr_right fun hundescribed => not_congr ?_
  exact (WalkOptions.exempts_iff_skips hnode hundescribed).symm

/-- Options are filters on what a walk without exemptions finds: the one for the schema itself drops
its path and no other, the one for references drops paths that lead to references and no others.
With more exemptions nothing more is found. -/
theorem missingDescriptions_eq_filter {value : Json} (hvalue : value.Canonical) (label : String) :
    (∀ options, missingDescriptions value (.root label) options =
      (missingDescriptions value (.root label) .jsonSchema).filter fun path =>
        ¬options.Exempts value path) ∧
    (∀ refs path, path ≠ .root label →
      (path ∈ missingDescriptions value (.root label) ⟨true, refs⟩ ↔
        path ∈ missingDescriptions value (.root label) ⟨false, refs⟩)) ∧
    (∀ top path, ¬path.LeadsToReference value →
      (path ∈ missingDescriptions value (.root label) ⟨top, true⟩ ↔
        path ∈ missingDescriptions value (.root label) ⟨top, false⟩)) ∧
    ∀ fewer more : WalkOptions, (fewer.skipTopLevel = true → more.skipTopLevel = true) →
      (fewer.skipRefs = true → more.skipRefs = true) →
      (missingDescriptions value (.root label) more).Sublist
        (missingDescriptions value (.root label) fewer) := by
  have hfilter := missingDescriptions_eq_filter_exempts hvalue label
  refine ⟨hfilter, fun refs path hpath => ?_, fun top path hpath => ?_,
    fun fewer more htop hrefs => ?_⟩
  · rw [hfilter ⟨true, refs⟩, hfilter ⟨false, refs⟩, List.mem_filter, List.mem_filter]
    refine and_congr_right fun hfound => ?_
    obtain rfl : path.label = label := label_of_mem_missingDescriptions hvalue hfound
    simp [WalkOptions.Exempts, hpath]
  · rw [hfilter ⟨top, true⟩, hfilter ⟨top, false⟩, List.mem_filter, List.mem_filter]
    simp [WalkOptions.Exempts, hpath]
  · rw [hfilter more, hfilter fewer]
    refine List.monotone_filter_right _ fun path hkept => ?_
    rw [decide_eq_true_eq] at hkept ⊢
    exact fun hexempt => hkept (hexempt.imp (And.imp_left htop) (And.imp_left hrefs))

/-- A schema with a type, a field, a reference, and what looks like one but lists its values. -/
def referringSchema : Json :=
  .object
    [("properties", .object
      [("buyer", .object [("$ref", .string "#/$defs/Buyer"), ("type", .string "object")]),
        ("mode", .object [("$ref", .string "#/$defs/Mode"), ("enum", .array [.string "test"]),
          ("type", .string "string")]),
        ("total", .object [("type", .string "integer")])]),
      ("type", .string "object")]

theorem missingDescriptions_eq_filter_referringSchema :
    let buyer : FieldPath := ⟨"Cart", [.property "buyer"]⟩
    let total : FieldPath := ⟨"Cart", [.property "total"]⟩
    let found := missingDescriptions referringSchema (.root "Cart")
    referringSchema.Canonical ∧ total ≠ .root "Cart" ∧ ¬total.LeadsToReference referringSchema ∧
      (total ∈ found .openApi ∧ buyer ∈ found .jsonSchema ∧ buyer ∉ found .openApi) ∧
      found .openApi = ((found .jsonSchema).filter fun path =>
        ¬WalkOptions.openApi.Exempts referringSchema path) ∧
      (found .openApi).Sublist (found .jsonSchema) := by
  intro buyer total found
  have hcanonical : referringSchema.Canonical := Json.canonical_canonicalize referringSchema
  have hroot : total ≠ .root "Cart" := by decide
  have hreference : ¬total.LeadsToReference referringSchema := by decide
  have hbuyer : buyer ∈ found .jsonSchema := (mem_missingDescriptions_iff hcanonical).2 ⟨rfl, rfl⟩
  have htotal : total ∈ found .jsonSchema := (mem_missingDescriptions_iff hcanonical).2 ⟨rfl, rfl⟩
  obtain ⟨hfilter, htop, hrefs, hsublist⟩ := missingDescriptions_eq_filter hcanonical "Cart"
  refine ⟨hcanonical, hroot, hreference, ⟨?_, hbuyer, ?_⟩, hfilter .openApi,
    hsublist .jsonSchema .openApi (by decide) (by decide)⟩
  · exact (htop true total hroot).2 ((hrefs false total hreference).2 htotal)
  · show buyer ∉ missingDescriptions referringSchema (.root "Cart") .openApi
    rw [hfilter, List.mem_filter, not_and]
    exact fun _ => by decide

end SpecLint.Schema
