import SpecLint.Proofs.Decode
import SpecLint.Proofs.Text.Search
import SpecLint.Route

/-!
The JSON form of route tables. A table is read back from it, so the examples of every family go where
they went before (`survives_toJson`). Of the two lists of a pattern by parts either may be left out;
it is then read as an empty one, which leaves the choice of names to the other list alone.
-/

namespace SpecLint

namespace Pattern

/-! ### Patterns by parts -/

/-- The JSON form of a pattern with the given parts. -/
def byParts (members : Members) : Json := .object [("contains", .object members)]

/-- The texts that stand under a key, which may be left out if there are none. -/
def Lists (members : Members) (key : String) (texts : List String) : Prop :=
  members.get? key = some (.ofStrings texts) ∨ members.get? key = none ∧ texts = []

/-- Patterns by parts are read as what is listed in them, and a list that is left out makes no
difference to an empty one, whatever else is there. -/
structure ReadsParts (decode : Json → Decoded Pattern) : Prop where
  listed : ∀ {members : Members} {required forbidden : List String}, members.Sorted →
    Lists members "all" required → Lists members "none" forbidden →
    decode (byParts members) = .ok (.contains required forbidden)
  left_out : ∀ {members : Members} {key : String}, key = "all" ∨ key = "none" →
    members.get? key = none →
    decode (byParts members) = decode (byParts (members.insert key (.array [])))

/-- How the parts of a pattern are checked before they are read. -/
def readers : List (String × (Json → Decoded Unit)) :=
  let check (value : Json) : Decoded Unit :=
    (Json.decodeList Json.decodeText value).map fun _ => ()
  [("all", check), ("none", check)]

theorem decodeParts_ofMembers (members : Members) :
    decodeParts (.ofMembers members) = (do
      let fields := Fields.ofMembers members
      fields.check readers
      let required ← fields.optional "all" (Json.decodeList Json.decodeText) []
      let forbidden ← fields.optional "none" (Json.decodeList Json.decodeText) []
      .ok (.contains required forbidden)) := rfl

theorem ofJson_byParts (members : Members) :
    ofJson (byParts members) = decodeParts (.ofMembers members) := rfl

theorem ofRouteJson_byParts (members : Members) :
    ofRouteJson (byParts members) = decodeParts (.ofMembers members) := by
  show (decodeParts (.ofMembers members)).bind Except.ok = _
  cases decodeParts (.ofMembers members) <;> rfl

variable {members : Members} {key : String}

theorem Lists.optional_eq {texts : List String} (h : Lists members key texts) :
    (Fields.ofMembers members).optional key (Json.decodeList Json.decodeText) [] = .ok texts := by
  rw [Fields.optional]
  rcases h with hget | ⟨hget, rfl⟩
  · have hgiven : (Fields.ofMembers members).given.lookup key = some (.ofStrings texts) := hget
    rw [hgiven]
    exact Json.decodeTexts_ofStrings texts
  · have hgiven : (Fields.ofMembers members).given.lookup key = none := hget
    rw [hgiven]

theorem Lists.check_eq {texts : List String} (h : Lists members key texts)
    (hsorted : members.Sorted) {value : Json} (hmem : (key, value) ∈ members) :
    (Json.decodeList Json.decodeText value).map (fun _ => ()) = .ok () := by
  have hget := Members.get?_of_mem hsorted hmem
  rcases h with hlisted | ⟨hnone, -⟩
  · rw [hlisted, Option.some.injEq] at hget
    rw [← hget, Json.decodeTexts_ofStrings]
    rfl
  · rw [hnone] at hget
    cases hget

theorem decodeParts_eq_ok {required forbidden : List String} (hsorted : members.Sorted)
    (hrequired : Lists members "all" required) (hforbidden : Lists members "none" forbidden) :
    decodeParts (.ofMembers members) = .ok (.contains required forbidden) := by
  have hcheck : (Fields.ofMembers members).check readers = .ok () := by
    refine Fields.check_eq_ok ?_
    rintro ⟨key, value⟩ hmem read hreader
    simp only [readers, List.mem_cons, List.not_mem_nil, or_false, Prod.mk.injEq] at hreader
    rcases hreader with ⟨rfl, rfl⟩ | ⟨rfl, rfl⟩
    · exact hrequired.check_eq hsorted hmem
    · exact hforbidden.check_eq hsorted hmem
  rw [decodeParts_ofMembers]
  simp only [hcheck, hrequired.optional_eq, hforbidden.optional_eq]
  rfl

theorem decodeParts_insert_empty (hkey : key = "all" ∨ key = "none")
    (hnew : members.get? key = none) :
    decodeParts (.ofMembers (members.insert key (.array []))) =
      decodeParts (.ofMembers members) := by
  have hcheck : (Fields.ofMembers (members.insert key (.array []))).check readers =
      (Fields.ofMembers members).check readers := by
    refine Fields.check_insert ?_ hnew
    intro read hread
    rcases hkey with rfl | rfl
    · obtain rfl := Option.some.inj hread
      rfl
    · obtain rfl := Option.some.inj hread
      rfl
  have hoptional : ∀ name, (Fields.ofMembers (members.insert key (.array []))).optional name
      (Json.decodeList Json.decodeText) [] =
        (Fields.ofMembers members).optional name (Json.decodeList Json.decodeText) [] := by
    intro name
    rw [Fields.optional_insert]
    split
    · rename_i hname
      have hleft : Lists members name [] := .inr ⟨hname ▸ hnew, rfl⟩
      rw [hleft.optional_eq]
      rfl
    · rfl
  rw [decodeParts_ofMembers, decodeParts_ofMembers]
  simp only [hcheck, hoptional]

theorem readsParts_of_byParts {decode : Json → Decoded Pattern}
    (hdecode : ∀ members, decode (byParts members) = decodeParts (.ofMembers members)) :
    ReadsParts decode where
  listed hsorted hrequired hforbidden := by
    rw [hdecode]
    exact decodeParts_eq_ok hsorted hrequired hforbidden
  left_out hkey hnew := by
    rw [hdecode, hdecode]
    exact (decodeParts_insert_empty hkey hnew).symm

theorem ofRouteJson_toJson (pattern : Pattern) : ofRouteJson pattern.toJson = .ok pattern := by
  cases pattern with
  | equals name => rfl
  | startsWith start => rfl
  | contains required forbidden =>
      have hkeys : "all" < "none" := by decide
      have hsorted : Members.Sorted
          [("all", .ofStrings required), ("none", .ofStrings forbidden)] :=
        List.pairwise_pair.2 hkeys
      exact (readsParts_of_byParts ofRouteJson_byParts).listed hsorted (.inl rfl) (.inl rfl)

theorem isMatch_contains_iff {required forbidden : List String} {name : String} :
    (contains required forbidden).isMatch name = true ↔
      (∀ text ∈ required, text.toList <:+: name.toList) ∧
        ∀ text ∈ forbidden, ¬text.toList <:+: name.toList := by
  simp only [isMatch, Bool.and_eq_true, List.all_eq_true, Bool.not_eq_true', List.any_eq_false,
    Text.contains_iff]

end Pattern

/-! ### Routes -/

namespace Route

/-- The members of a route in order, around the JSON form of a pattern. -/
def membersAround (content : Json) (route : Route) : Members :=
  [("definition", .string route.definition), ("family", .string route.family.text),
    ("pattern", content)]

/-- How the fields of a route are checked before they are read. -/
def readers : List (String × (Json → Decoded Unit)) :=
  let check {α : Type} (decode : Json → Decoded α) (value : Json) : Decoded Unit :=
    (decode value).map fun _ => ()
  [("family", check Json.decodeFamily), ("pattern", check Pattern.ofRouteJson),
    ("definition", check Json.decodeText)]

theorem ofJson_object (members : Members) :
    ofJson (.object members) = (do
      let fields := Fields.ofMembers members
      fields.check readers
      let family ← fields.required "family" Json.decodeFamily
      let pattern ← fields.required "pattern" Pattern.ofRouteJson
      let definition ← fields.required "definition" Json.decodeText
      .ok ⟨family, pattern, definition⟩) := rfl

/-- The family and the definition of a route are read back, whatever stands for its pattern. -/
theorem ofJson_membersAround (route : Route) (content : Json) :
    ofJson (.object (route.membersAround content)) =
      (Pattern.ofRouteJson content).map fun pattern => { route with pattern } := by
  have hread := Json.decodeFamily_text route.family
  have hcheck : (Fields.ofMembers (route.membersAround content)).check readers =
      (Pattern.ofRouteJson content).map fun _ => () := by
    rw [membersAround, Fields.check_cons_of_ok, Fields.check_cons_of_ok, Fields.ofMembers,
      Fields.check_cons]
    · show ((Pattern.ofRouteJson content).map fun _ => ()).bind (fun _ => .ok ()) = _
      cases Pattern.ofRouteJson content <;> rfl
    · intro read hreader
      obtain rfl := Option.some.inj hreader
      simp only [hread]
      rfl
    · intro read hreader
      obtain rfl := Option.some.inj hreader
      rfl
  have hfamily : (Fields.ofMembers (route.membersAround content)).required "family"
      Json.decodeFamily = .ok route.family := hread
  have hdefinition : (Fields.ofMembers (route.membersAround content)).required "definition"
      Json.decodeText = .ok route.definition := rfl
  have hpattern : (Fields.ofMembers (route.membersAround content)).required "pattern"
      Pattern.ofRouteJson = Pattern.ofRouteJson content := rfl
  rw [ofJson_object]
  simp only [hcheck, hfamily, hdefinition, hpattern]
  cases Pattern.ofRouteJson content <;> rfl

theorem ofJson_toJson (route : Route) : ofJson route.toJson = .ok route := by
  have hform : route.toJson = .object (route.membersAround route.pattern.toJson) := rfl
  rw [hform, ofJson_membersAround, route.pattern.ofRouteJson_toJson]
  rfl

end Route

namespace RouteTable

theorem ofJson_toJson (table : RouteTable) : ofJson table.toJson = .ok table := by
  rw [ofJson, toJson, Json.decodeList_map Route.ofJson_toJson]
  rfl

/-- The JSON form of a table is read back, and what is read sends every example where the table
sends it. A list that is left out of a pattern by parts is read as an empty one, alone and in a
route; with the other list alone every name matches that it allows. -/
theorem survives_toJson (table : RouteTable) :
    ofJson table.toJson = .ok table ∧
    (∀ family exampleName, (ofJson table.toJson).map (·.resolve? family exampleName) =
      .ok (table.resolve? family exampleName)) ∧
    Pattern.ReadsParts Pattern.ofJson ∧ Pattern.ReadsParts Pattern.ofRouteJson ∧
    ∀ (texts : List String) (name : String),
      ((Pattern.contains texts []).isMatch name = true ↔
        ∀ text ∈ texts, text.toList <:+: name.toList) ∧
      ((Pattern.contains [] texts).isMatch name = true ↔
        ∀ text ∈ texts, ¬text.toList <:+: name.toList) := by
  refine ⟨table.ofJson_toJson, ?_, Pattern.readsParts_of_byParts Pattern.ofJson_byParts,
    Pattern.readsParts_of_byParts Pattern.ofRouteJson_byParts, ?_⟩
  · intro family exampleName
    rw [ofJson_toJson]
    rfl
  · intro texts name
    constructor
    · rw [Pattern.isMatch_contains_iff]
      exact and_iff_left (by simp)
    · rw [Pattern.isMatch_contains_iff]
      exact and_iff_right (by simp)

end RouteTable

end SpecLint
