import SpecLint.Finding.Json
import SpecLint.Proofs.Decode

/-!
The JSON form of findings. Every set key of a context stands under a name of its own and the unset
ones are left out, so that reading the object key by key finds the context again. Only the version
and the family are read with a check; what is kept of them passes it.
-/

namespace SpecLint

namespace Context

variable {context : Context} {version spec : Option String}

/-- What stands under a key in the JSON form of a context, given the texts for its version and its
family. -/
def memberWith? (version spec : Option String) (context : Context) : String → Option Json
  | "version" => version.map .string
  | "spec" => spec.map .string
  | "artifact" => context.artifact.map fun kind => .string kind.name
  | "schema" => context.schema.map .string
  | "model" => context.model.map .string
  | "field" => context.field.map .string
  | "type" => context.fieldType.map .string
  | "example" => context.exampleName.map .string
  | "reason" => context.reason.map .string
  | "errors" =>
    if context.errors = [] then none else some (.array (context.errors.map Violation.toJson))
  | _ => none

theorem memberWith?_of_notMem {key : String} (h : key ∉ keys) :
    context.memberWith? version spec key = none := by
  simp only [keys, List.mem_cons, List.not_mem_nil, or_false, not_or] at h
  unfold memberWith?
  split <;> simp_all

theorem memberWith?_version (former : Option String) {raw : String} (key : String) :
    context.memberWith? (some raw) spec key =
      if key = "version" then some (.string raw) else context.memberWith? former spec key := by
  by_cases hkey : key ∈ keys
  · simp only [keys, List.mem_cons, List.not_mem_nil, or_false] at hkey
    rcases hkey with rfl | rfl | rfl | rfl | rfl | rfl | rfl | rfl | rfl | rfl <;> rfl
  · have hne : key ≠ "version" := fun h => hkey (h ▸ by simp [keys])
    rw [if_neg hne, memberWith?_of_notMem hkey, memberWith?_of_notMem hkey]

theorem memberWith?_spec (former : Option String) {raw : String} (key : String) :
    context.memberWith? version (some raw) key =
      if key = "spec" then some (.string raw) else context.memberWith? version former key := by
  by_cases hkey : key ∈ keys
  · simp only [keys, List.mem_cons, List.not_mem_nil, or_false] at hkey
    rcases hkey with rfl | rfl | rfl | rfl | rfl | rfl | rfl | rfl | rfl | rfl <;> rfl
  · have hne : key ≠ "spec" := fun h => hkey (h ▸ by simp [keys])
    rw [if_neg hne, memberWith?_of_notMem hkey, memberWith?_of_notMem hkey]

theorem get?_toList_map (key other : String) (value : Option String) :
    Members.get? (value.map fun v => (key, Json.string v)).toList other =
      if other = key then value.map .string else none := by
  cases value with
  | none => simp [Members.get?]
  | some text => exact Members.get?_cons key other (.string text) []

theorem get?_append (first more : Members) (key : String) :
    Members.get? (first ++ more) key = (first.get? key).or (more.get? key) :=
  List.lookup_append

theorem get?_membersWith (context : Context) (key : String) :
    Members.get? (context.membersWith Violation.toJson) key =
      context.memberWith? (context.version.map VersionTag.text) (context.spec.map Family.text)
        key := by
  have herrors : Members.get? (if context.errors.isEmpty then [] else
        [("errors", .array (context.errors.map Violation.toJson))]) key =
      if key = "errors" then
        if context.errors = [] then none else some (.array (context.errors.map Violation.toJson))
      else none := by
    cases context.errors with
    | nil => simp [Members.get?]
    | cons violation more => exact Members.get?_cons _ _ _ []
  simp only [membersWith, get?_append, get?_toList_map, herrors]
  by_cases hkey : key ∈ keys
  · simp only [keys, List.mem_cons, List.not_mem_nil, or_false] at hkey
    rcases hkey with rfl | rfl | rfl | rfl | rfl | rfl | rfl | rfl | rfl | rfl <;>
      simp [memberWith?, Function.comp_def]
  · rw [memberWith?_of_notMem hkey]
    simp only [keys, List.mem_cons, List.not_mem_nil, or_false, not_or] at hkey
    simp [hkey]

theorem nodup_keys_membersWith (context : Context) :
    ((context.membersWith Violation.toJson).map Prod.fst).Nodup := by
  have hfield : ∀ (key : String) (value : Option String),
      ((value.map fun v => (key, Json.string v)).toList.map Prod.fst).Sublist [key] := by
    intro key value
    cases value <;> simp
  have herrors : ((if context.errors.isEmpty then [] else
      [("errors", Json.array (context.errors.map Violation.toJson))]).map Prod.fst).Sublist
        ["errors"] := by
    split <;> simp
  have hkeys : ((context.membersWith Violation.toJson).map Prod.fst).Sublist keys := by
    simp only [membersWith, List.map_append]
    exact ((((((((hfield _ _).append (hfield _ _)).append (hfield _ _)).append
      (hfield _ _)).append (hfield _ _)).append (hfield _ _)).append (hfield _ _)).append
      (hfield _ _)).append (hfield _ _) |>.append herrors
  exact hkeys.nodup (by decide)

/-! ### Reading -/

/-- How the fields of a context are checked before they are read. -/
def readers : List (String × (Json → Decoded Unit)) :=
  let reader {α : Type} (decode : Json → Decoded α) (value : Json) : Decoded Unit :=
    (decode value).map fun _ => ()
  [("version", reader (Json.decodeOption Json.decodeVersion)),
    ("spec", reader (Json.decodeOption Json.decodeFamily)),
    ("artifact", reader (Json.decodeOption decodeKind)),
    ("schema", reader (Json.decodeOption Json.decodeText)),
    ("model", reader (Json.decodeOption Json.decodeText)),
    ("field", reader (Json.decodeOption Json.decodeText)),
    ("type", reader (Json.decodeOption Json.decodeText)),
    ("example", reader (Json.decodeOption Json.decodeText)),
    ("reason", reader (Json.decodeOption Json.decodeText)),
    ("errors", reader (Json.decodeList Violation.ofJson))]

/-- What is kept of a text for a version or a family, if there is one. -/
def accept {α : Type} (parse : String → Except CoordinateError α) :
    Option String → Decoded (Option α)
  | none => .ok none
  | some raw => ((parse raw).mapError .coordinate).map some

theorem ofJson_object (members : Members) :
    ofJson (.object members) = (do
      let fields := Fields.ofMembers members
      fields.check readers
      let version ← fields.optional "version" (Json.decodeOption Json.decodeVersion) none
      let spec ← fields.optional "spec" (Json.decodeOption Json.decodeFamily) none
      let artifact ← fields.optional "artifact" (Json.decodeOption decodeKind) none
      let schema ← fields.optional "schema" (Json.decodeOption Json.decodeText) none
      let model ← fields.optional "model" (Json.decodeOption Json.decodeText) none
      let field ← fields.optional "field" (Json.decodeOption Json.decodeText) none
      let fieldType ← fields.optional "type" (Json.decodeOption Json.decodeText) none
      let exampleName ← fields.optional "example" (Json.decodeOption Json.decodeText) none
      let reason ← fields.optional "reason" (Json.decodeOption Json.decodeText) none
      let errors ← fields.optional "errors" (Json.decodeList Violation.ofJson) []
      .ok ⟨version, spec, artifact, schema, model, field, fieldType, exampleName, reason,
        errors⟩) := rfl

theorem decodeKind_name (kind : ArtifactKind) : decodeKind (.string kind.name) = .ok kind := by
  cases kind <;> rfl

theorem ofJson_violation (violation : Violation) :
    Violation.ofJson violation.toJson = .ok violation := rfl

/-- Only the texts for the version and the family can be refused. -/
theorem read_member {name : String} {value : Json} {read : Json → Decoded Unit}
    (hvalue : context.memberWith? version spec name = some value) (hread : (name, read) ∈ readers) :
    read value = .ok () ∨ read value = (accept VersionTag.parse version).map (fun _ => ()) ∨
      read value = (accept Family.parse spec).map fun _ => () := by
  have htext : ∀ {text : Option String}, text.map Json.string = some value →
      (Json.decodeOption Json.decodeText value).map (fun _ => ()) = .ok () := by
    intro text h
    obtain ⟨_, -, rfl⟩ := Option.map_eq_some_iff.1 h
    rfl
  simp only [readers, List.mem_cons, List.not_mem_nil, or_false, Prod.mk.injEq] at hread
  rcases hread with ⟨rfl, rfl⟩ | ⟨rfl, rfl⟩ | ⟨rfl, rfl⟩ | ⟨rfl, rfl⟩ | ⟨rfl, rfl⟩ | ⟨rfl, rfl⟩ |
    ⟨rfl, rfl⟩ | ⟨rfl, rfl⟩ | ⟨rfl, rfl⟩ | ⟨rfl, rfl⟩
  · obtain ⟨raw, rfl, rfl⟩ := Option.map_eq_some_iff.1 hvalue
    exact Or.inr (Or.inl rfl)
  · obtain ⟨raw, rfl, rfl⟩ := Option.map_eq_some_iff.1 hvalue
    exact Or.inr (Or.inr rfl)
  · obtain ⟨kind, -, rfl⟩ := Option.map_eq_some_iff.1 hvalue
    cases kind <;> exact Or.inl rfl
  · exact Or.inl (htext hvalue)
  · exact Or.inl (htext hvalue)
  · exact Or.inl (htext hvalue)
  · exact Or.inl (htext hvalue)
  · exact Or.inl (htext hvalue)
  · exact Or.inl (htext hvalue)
  · obtain ⟨-, hwritten⟩ := Option.ite_none_left_eq_some.1 hvalue
    obtain rfl := Option.some.inj hwritten
    left
    simp only [Json.decodeList_map ofJson_violation]
    rfl

section

variable {members : Members} (hsorted : members.Sorted)
  (hmembers : ∀ key, members.get? key = context.memberWith? version spec key)

include hsorted hmembers

/-- A context is found again under its keys. -/
theorem ofJson_eq_ok {v : Option VersionTag} {s : Option Family}
    (hversion : accept VersionTag.parse version = .ok v)
    (hspec : accept Family.parse spec = .ok s) :
    ofJson (.object members) = .ok { context with version := v, spec := s } := by
  have hget : ∀ key, (Fields.ofMembers members).given.lookup key =
      context.memberWith? version spec key := hmembers
  have hcheck : (Fields.ofMembers members).check readers = .ok () := by
    refine Fields.check_eq_ok fun entry hentry read hread => ?_
    have hvalue := Members.get?_of_mem hsorted hentry
    rw [hmembers] at hvalue
    rcases read_member hvalue hread with hok | hok | hok
    · exact hok
    · rw [hok, hversion]
      rfl
    · rw [hok, hspec]
      rfl
  have hv : (Fields.ofMembers members).optional "version"
      (Json.decodeOption Json.decodeVersion) none = .ok v := by
    rw [← hversion, Fields.optional, hget]
    cases version <;> rfl
  have hs : (Fields.ofMembers members).optional "spec"
      (Json.decodeOption Json.decodeFamily) none = .ok s := by
    rw [← hspec, Fields.optional, hget]
    cases spec <;> rfl
  have hartifact : (Fields.ofMembers members).optional "artifact"
      (Json.decodeOption decodeKind) none = .ok context.artifact :=
    Fields.optional_text _ decodeKind_name (hget "artifact")
  have htext : ∀ (name : String) {field : Option String},
      context.memberWith? version spec name = field.map .string →
      (Fields.ofMembers members).optional name (Json.decodeOption Json.decodeText) none =
        .ok field :=
    fun name _ h => Fields.optional_text id (fun _ => rfl) ((hget name).trans h)
  have herrors : (Fields.ofMembers members).optional "errors"
      (Json.decodeList Violation.ofJson) [] = .ok context.errors := by
    have hmember : context.memberWith? version spec "errors" =
        if context.errors = [] then none
        else some (.array (context.errors.map Violation.toJson)) := rfl
    rw [Fields.optional, hget, hmember]
    by_cases hempty : context.errors = []
    · simp [hempty]
    · simp [hempty, Json.decodeList_map ofJson_violation]
  have hschema := htext "schema" rfl
  have hmodel := htext "model" rfl
  have hfield := htext "field" rfl
  have htype := htext "type" rfl
  have hexample := htext "example" rfl
  have hreason := htext "reason" rfl
  rw [ofJson_object]
  simp only [hcheck, hv, hs, hartifact, hschema, hmodel, hfield, htype, hexample, hreason, herrors,
    bind, Except.bind]

theorem ofJson_eq_error {error : DecodeError}
    (hversion : (∃ v, accept VersionTag.parse version = .ok v) ∨
      accept VersionTag.parse version = .error error)
    (hspec : (∃ s, accept Family.parse spec = .ok s) ∨ accept Family.parse spec = .error error)
    (hwrong : accept VersionTag.parse version = .error error ∨
      accept Family.parse spec = .error error) :
    ofJson (.object members) = .error error := by
  have hunit : ∀ {α : Type} {result : Decoded α}, (∃ a, result = .ok a) ∨ result = .error error →
      result.map (fun _ => ()) = .ok () ∨ result.map (fun _ => ()) = .error error := by
    rintro α result (⟨a, rfl⟩ | rfl)
    · exact Or.inl rfl
    · exact Or.inr rfl
  have hcheck : (Fields.ofMembers members).check readers = .error error := by
    have hall : ∀ entry ∈ (Fields.ofMembers members).given, ∀ read, (entry.1, read) ∈ readers →
        read entry.2 = .ok () ∨ read entry.2 = .error error := by
      intro entry hentry read hread
      have hvalue := Members.get?_of_mem hsorted hentry
      rw [hmembers] at hvalue
      rcases read_member hvalue hread with hok | hok | hok
      · exact Or.inl hok
      · exact hok ▸ hunit hversion
      · exact hok ▸ hunit hspec
    rcases hwrong with hwrong | hwrong
    · cases version with
      | none => cases hwrong
      | some raw =>
          have hmem := Members.mem_of_get? (hmembers "version")
          refine Fields.check_eq_error hall hmem ⟨_, rfl, ?_⟩
          exact congrArg (Except.map fun _ => ()) hwrong
    · cases spec with
      | none => cases hwrong
      | some raw =>
          have hmem := Members.mem_of_get? (hmembers "spec")
          refine Fields.check_eq_error hall hmem ⟨_, rfl, ?_⟩
          exact congrArg (Except.map fun _ => ()) hwrong
  rw [ofJson_object]
  simp only [hcheck, bind, Except.bind]

end

theorem get?_toJson (context : Context) (key : String) :
    context.toJson.get? key =
      context.memberWith? (context.version.map VersionTag.text) (context.spec.map Family.text)
        key := by
  rw [← get?_membersWith, ← Members.get?_ofList context.nodup_keys_membersWith]
  rfl

theorem accept_version (version : Option VersionTag) :
    accept VersionTag.parse (version.map VersionTag.text) = .ok version := by
  cases version with
  | none => rfl
  | some tag =>
      rw [Option.map_some, accept, tag.parse_text]
      rfl

theorem accept_spec (spec : Option Family) :
    accept Family.parse (spec.map Family.text) = .ok spec := by
  cases spec with
  | none => rfl
  | some family =>
      rw [Option.map_some, accept, family.parse_text]
      rfl

theorem ofJson_toJson (context : Context) : ofJson context.toJson = .ok context :=
  ofJson_eq_ok (Members.sorted_ofList _) context.get?_toJson (accept_version _) (accept_spec _)

theorem ofJson_set_version (context : Context) (raw : String) :
    ofJson (context.toJson.set "version" (.string raw)) =
      ((VersionTag.parse raw).mapError .coordinate).map fun tag =>
        { context with version := some tag } := by
  have hsorted := (Members.sorted_ofList (context.membersWith Violation.toJson)).insert
    "version" (.string raw)
  have hmembers : ∀ key, ((Members.ofList (context.membersWith Violation.toJson)).insert
      "version" (.string raw)).get? key =
      context.memberWith? (some raw) (context.spec.map Family.text) key := by
    intro key
    rw [Members.get?_insert, memberWith?_version (context.version.map VersionTag.text)]
    exact congrArg _ (context.get?_toJson key)
  have hspec := accept_spec context.spec
  cases hparse : VersionTag.parse raw with
  | ok tag =>
      have hversion : accept VersionTag.parse (some raw) = .ok (some tag) := by
        rw [accept, hparse]
        rfl
      exact ofJson_eq_ok hsorted hmembers hversion hspec
  | error error =>
      have hversion : accept VersionTag.parse (some raw) = .error (.coordinate error) := by
        rw [accept, hparse]
        rfl
      exact ofJson_eq_error hsorted hmembers (Or.inr hversion) (Or.inl ⟨_, hspec⟩) (Or.inl hversion)

theorem ofJson_set_spec (context : Context) (raw : String) :
    ofJson (context.toJson.set "spec" (.string raw)) =
      ((Family.parse raw).mapError .coordinate).map fun family =>
        { context with spec := some family } := by
  have hsorted := (Members.sorted_ofList (context.membersWith Violation.toJson)).insert
    "spec" (.string raw)
  have hmembers : ∀ key, ((Members.ofList (context.membersWith Violation.toJson)).insert
      "spec" (.string raw)).get? key =
      context.memberWith? (context.version.map VersionTag.text) (some raw) key := by
    intro key
    rw [Members.get?_insert, memberWith?_spec (context.spec.map Family.text)]
    exact congrArg _ (context.get?_toJson key)
  have hversion := accept_version context.version
  cases hparse : Family.parse raw with
  | ok family =>
      have hspec : accept Family.parse (some raw) = .ok (some family) := by
        rw [accept, hparse]
        rfl
      exact ofJson_eq_ok hsorted hmembers hversion hspec
  | error error =>
      have hspec : accept Family.parse (some raw) = .error (.coordinate error) := by
        rw [accept, hparse]
        rfl
      exact ofJson_eq_error hsorted hmembers (Or.inl ⟨_, hversion⟩) (Or.inr hspec) (Or.inr hspec)

end Context

namespace Finding

/-- The members of a finding in order, around the JSON form of a context. -/
def membersAround (content : Json) (finding : Finding) : Members :=
  [("context", content), ("message", .string finding.message),
    ("rule", .string finding.rule.jsonName), ("severity", .string finding.severity.jsonName)]

theorem toJson_eq (finding : Finding) :
    finding.toJson = .object (finding.membersAround finding.context.toJson) := rfl

theorem set_context (finding : Finding) (content : Json) :
    finding.toJson.set "context" content = .object (finding.membersAround content) := rfl

theorem decodeRule_jsonName (rule : RuleId) : decodeRule (.string rule.jsonName) = .ok rule := by
  cases rule <;> rfl

theorem decodeSeverity_jsonName (severity : Severity) :
    decodeSeverity (.string severity.jsonName) = .ok severity := by
  cases severity <;> rfl

/-- How the fields of a finding are checked before they are read. -/
def readers : List (String × (Json → Decoded Unit)) :=
  let reader {α : Type} (decode : Json → Decoded α) (value : Json) : Decoded Unit :=
    (decode value).map fun _ => ()
  [("rule", reader decodeRule), ("severity", reader decodeSeverity),
    ("message", reader Json.decodeText), ("context", reader Context.ofJson)]

theorem ofJson_object (members : Members) :
    ofJson (.object members) = (do
      let fields := Fields.ofMembers members
      fields.check readers
      let rule ← fields.required "rule" decodeRule
      let severity ← fields.required "severity" decodeSeverity
      let message ← fields.required "message" Json.decodeText
      let context ← fields.required "context" Context.ofJson
      .ok ⟨rule, severity, message, context⟩) := rfl

theorem ofJson_membersAround (finding : Finding) (content : Json) :
    ofJson (.object (finding.membersAround content)) =
      (Context.ofJson content).map fun context => { finding with context } := by
  obtain ⟨rule, severity, message, former⟩ := finding
  have hafter : (Fields.ofMembers [("message", .string message),
      ("rule", .string rule.jsonName), ("severity", .string severity.jsonName)]).check readers =
        .ok () := by
    cases rule <;> cases severity <;> rfl
  have hcheck : (Fields.ofMembers (membersAround content ⟨rule, severity, message, former⟩)).check
      readers = (Context.ofJson content).map fun _ => () := by
    rw [membersAround, Fields.ofMembers, Fields.check_cons]
    show ((Context.ofJson content).map fun _ => ()).bind (fun _ => (Fields.ofMembers _).check _) = _
    rw [hafter]
    cases Context.ofJson content <;> rfl
  have hrule : (Fields.ofMembers (membersAround content ⟨rule, severity, message, former⟩)).required
      "rule" decodeRule = .ok rule := decodeRule_jsonName rule
  have hseverity : (Fields.ofMembers
      (membersAround content ⟨rule, severity, message, former⟩)).required
        "severity" decodeSeverity = .ok severity := decodeSeverity_jsonName severity
  rw [ofJson_object]
  simp only [hcheck, hrule, hseverity]
  cases hcontent : Context.ofJson content with
  | error error => rfl
  | ok context =>
      show ((Context.ofJson content).bind fun context => _) = _
      rw [hcontent]
      rfl

/-- The JSON form of a finding is read back, so that it is the form of no other finding. A key of
its context is written if it is set, and then as the text or the list that it has. Of other texts
for the version and the family those are read that are accepted, as what they are accepted for. -/
theorem toJson_read_back (finding : Finding) :
    ofJson finding.toJson = .ok finding ∧
    (∀ other : Finding, other.toJson = finding.toJson → other = finding) ∧
    finding.toJson.get? "context" = some finding.context.toJson ∧
    (∀ key, finding.context.toJson.get? key =
      finding.context.memberWith? (finding.context.version.map VersionTag.text)
        (finding.context.spec.map Family.text) key) ∧
    (∀ raw, ofJson (finding.toJson.set "context"
        (finding.context.toJson.set "version" (.string raw))) =
      ((VersionTag.parse raw).mapError .coordinate).map fun tag =>
        { finding with context := { finding.context with version := some tag } }) ∧
    ∀ raw, ofJson (finding.toJson.set "context"
        (finding.context.toJson.set "spec" (.string raw))) =
      ((Family.parse raw).mapError .coordinate).map fun family =>
        { finding with context := { finding.context with spec := some family } } := by
  have hread : ∀ finding : Finding, ofJson finding.toJson = .ok finding := by
    intro finding
    rw [toJson_eq, ofJson_membersAround, Context.ofJson_toJson]
    rfl
  refine ⟨hread finding, ?_, rfl, finding.context.get?_toJson, ?_, ?_⟩
  · intro other h
    have hsame := hread other
    rw [h, hread finding] at hsame
    exact (Except.ok.inj hsame).symm
  · intro raw
    rw [set_context, ofJson_membersAround, Context.ofJson_set_version]
    cases VersionTag.parse raw <;> rfl
  · intro raw
    rw [set_context, ofJson_membersAround, Context.ofJson_set_spec]
    cases Family.parse raw <;> rfl

end Finding

end SpecLint
