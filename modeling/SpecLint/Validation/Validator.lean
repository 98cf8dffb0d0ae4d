import SpecLint.Finding.Basic
import SpecLint.Validation.Reference

/-!
Validators: what a reference leads to with everything that this refers to, ready to check values. A
value is checked keyword by keyword, and all that is wrong with it is reported. Keywords that are not
known are passed over.

A reference that is met again before any step into the value says nothing new, so it accepts
everything; this makes the depth of a check finite, and `Validator.violations` computes a bound.
-/

namespace SpecLint.Validation

namespace Keyword

/-- The reference that a keyword is. -/
def target? : Keyword → Option String
  | .reference target => some target
  | _ => none

/-- The schemas directly inside a keyword. -/
def parts : Keyword → List Schema
  | .assertion _ | .reference _ | .noProperty | .noItemsFrom _ => []
  | .allOf branches | .anyOf branches | .oneOf branches | .itemsInOrder branches => branches
  | .negation _ schema | .itemsFrom _ schema | .contains schema | .propertyNames schema => [schema]
  | .conditional test positive negative => test :: positive.toList ++ negative.toList
  | .properties table => table.map (·.2)
  | .patternProperties table => table.map (·.2.2)
  | .allProperties named matching others =>
    named.map (·.2) ++ matching.map (·.2.2) ++ others.toList

end Keyword

/-- The references in a schema, up to a depth. -/
def Schema.references : (depth : Nat) → Schema → List String
  | depth + 1, .keywords list =>
    list.flatMap fun (_, keyword) =>
      keyword.target?.toList ++ keyword.parts.flatMap (Schema.references depth)
  | _, _ => []

/-- Where a check is: the way to the value and the way to the keyword. -/
structure Place where
  value : List String
  keyword : List String

namespace Place

def start : Place := ⟨[], []⟩

def inside (place : Place) (name : String) : Place :=
  { place with value := place.value ++ [name] }

def under (place : Place) (names : List String) : Place :=
  { place with keyword := place.keyword ++ names }

def violation (place : Place) (message : String) : Violation :=
  ⟨Json.Pointer.text place.value, Json.Pointer.text place.keyword, message⟩

end Place

/-- What a reference leads to. -/
structure Target where
  reference : String
  /-- The absolute form of the reference. -/
  place : String
  schema : Schema

/-- A schema that values can be checked against. -/
structure Validator where
  /-- The reference to the schema. -/
  reference : String
  /-- The targets of all references. -/
  targets : List Target
  /-- How deep schemas are. -/
  depth : Nat

namespace Validator

/-- Adds the targets of references, and of the references in them, to those that are known. Each
round settles one reference, so the number of references in the document bounds the rounds. -/
def follow (resources : Resources) (draft : Draft) (depth : Nat) :
    (rounds : Nat) → (pending : List String) → (known : List Target) → Schema.Reading (List Target)
  | 0, _, known => .ok known
  | _ + 1, [], known => .ok known
  | rounds + 1, reference :: pending, known =>
    match resources.lookup reference with
    | .error fault => .error fault
    | .ok (place, value) =>
      match Schema.read draft value with
      | .error fault => .error fault
      | .ok schema =>
        let known := ⟨reference, place.text, schema⟩ :: known
        let found := pending ++ schema.references depth
        let isKnown (reference : String) := known.any (·.reference == reference)
        follow resources draft depth rounds (found.filter (!isKnown ·)).eraseDups known

/-- The validator of a schema that is nothing but a reference. -/
def compile (draft : Draft) (retrieve : String → Json) (schema : Json) : Schema.Reading Validator :=
  match (schema.get? "$ref").bind Json.text? with
  | none => .error (.badKeyword "$ref")
  | some reference =>
    let resources : Resources :=
      ⟨String.ofList (Uri.splitMark '#' reference.toList).1, retrieve⟩
    match resources.home? with
    | none => .error (.badBase resources.base)
    | some home =>
      match resources.unknownDialect?, resources.badReference? home with
      | some dialect, _ => .error (.unknownDialect dialect)
      | none, some reference => .error (.badReference reference)
      | none, none =>
        let depth := resources.root.height
        let rounds := (Resources.references resources.root).length + 1
        (follow resources draft depth rounds [reference] []).map fun targets =>
          ⟨reference, targets, depth⟩

def unexpected (kind : String) (shown : List String) : String :=
  "Additional " ++ kind ++ " are not allowed (" ++ ", ".intercalate shown ++
    (if shown.length = 1 then " was" else " were") ++ " unexpected)"

/-- What is said of a value where no value is allowed. -/
def refusal (value : Json) : String := "False schema does not allow " ++ value.compact

/-- Which schemas of a list a value fails, out of how many. -/
def choiceFault? (keyword : String) (exactlyOne : Bool) (value : Json) (passed : Nat) :
    Option String :=
  if passed = 0 then
    some (value.compact ++ " is not valid under any of the schemas listed in the '" ++ keyword ++
      "' keyword")
  else if exactlyOne && 1 < passed then
    some (value.compact ++ " is valid under more than one of the schemas listed in the '" ++
      keyword ++ "' keyword")
  else none

/-- The members of an object; other values have none. -/
def membersOf (value : Json) : Members := value.members?.getD []

/-- The items of an array with their positions; other values have none. -/
def itemsOf (value : Json) : List (Json × Nat) := (value.items?.getD []).zipIdx

/-- What a check of a value against a schema finds, given the places of the references that were
followed for this value. -/
abbrev Check := (followed : List String) → Schema → Json → Place → List Violation

/-- What properties with matching names violate. -/
def matchingViolations (check : Check) (matching : List (String × Regex × Schema)) (name : String)
    (value : Json) (place : Place) : List Violation :=
  matching.flatMap fun (pattern, regex, schema) =>
    if regex.occursIn name then
      check [] schema value ((place.inside name).under ["patternProperties", pattern])
    else []

/-- What the properties of an object violate, when every property is checked by its name, by the
names that it matches, or by the schema for others. -/
def propertyViolations (check : Check) (keyword : String) (named : List (String × Schema))
    (matching : List (String × Regex × Schema)) (others : Option Schema) (members : Members)
    (place : Place) : List Violation :=
  let isOther (name : String) :=
    (named.lookup name).isNone && !matching.any fun (_, regex, _) => regex.occursIn name
  let found := members.flatMap fun (name, value) =>
    let byName :=
      match named.lookup name with
      | some schema => check [] schema value ((place.inside name).under ["properties", name])
      | none => []
    let byOthers :=
      match others with
      | some schema =>
        if isOther name then check [] schema value ((place.inside name).under [keyword]) else []
      | none => []
    byName ++ matchingViolations check matching name value place ++ byOthers
  let surplus := members.keys.filter isOther
  if others.isNone && !surplus.isEmpty then
    found ++ [(place.under [keyword]).violation
      (unexpected "properties" (surplus.map fun name => "'" ++ name ++ "'"))]
  else found

/-- What one keyword finds wrong with a value. -/
def keywordViolations (targets : List Target) (check : Check) (followed : List String)
    (name : String) (keyword : Keyword) (value : Json) (place : Place) : List Violation :=
  let here := place.under [name]
  let passes (schema : Schema) := (check followed schema value here).isEmpty
  let passed (schemas : List Schema) := schemas.countP passes
  match keyword with
  | .assertion assertion => (assertion.failures value).map here.violation
  | .reference reference =>
    match targets.find? (·.reference == reference) with
    | some target =>
      if followed.contains target.place then []
      else check (target.place :: followed) target.schema value here
    | none => []
  | .allOf branches =>
    branches.zipIdx.flatMap fun (schema, i) => check followed schema value (here.under [toString i])
  | .anyOf branches =>
    (choiceFault? name false value (passed branches)).toList.map here.violation
  | .oneOf branches =>
    (choiceFault? name true value (passed branches)).toList.map here.violation
  | .negation shown schema =>
    if passes schema then [here.violation (shown ++ " is not allowed for " ++ value.compact)] else []
  | .conditional test positive negative =>
    let (branch, branchName) := if passes test then (positive, "then") else (negative, "else")
    branch.toList.flatMap fun schema => check followed schema value (place.under [branchName])
  | .properties table =>
    table.flatMap fun (key, schema) =>
      match (membersOf value).get? key with
      | some part => check [] schema part ((place.inside key).under [name, key])
      | none => []
  | .patternProperties table =>
    table.flatMap fun entry =>
      (membersOf value).flatMap fun (key, part) => matchingViolations check [entry] key part place
  | .allProperties named matching others =>
    propertyViolations check name named matching others (membersOf value) place
  | .noProperty => (membersOf value).take 1 |>.map fun (_, part) => here.violation (refusal part)
  | .itemsInOrder schemas =>
    (schemas.zip (itemsOf value)).flatMap fun (schema, item, i) =>
      check [] schema item ((place.inside (toString i)).under [name, toString i])
  | .itemsFrom start schema =>
    ((itemsOf value).drop start).flatMap fun (item, i) =>
      check [] schema item ((place.inside (toString i)).under [name])
  | .noItemsFrom start =>
    let surplus := (itemsOf value).drop start
    if surplus.isEmpty then []
    else [here.violation (unexpected "items" (surplus.map fun (item, _) => item.compact))]
  | .contains schema =>
    match value with
    | .array items =>
      if items.any fun item => (check [] schema item here).isEmpty then []
      else
        [here.violation ("None of " ++ value.compact ++ " are valid under the given schema")]
    | _ => []
  | .propertyNames (.always false) =>
    if (membersOf value).isEmpty then [] else [here.violation (refusal value)]
  | .propertyNames schema =>
    (membersOf value).keys.flatMap fun key => check [] schema (.string key) here

/-- What a check finds within a depth. -/
def violationsWithin (targets : List Target) : (depth : Nat) → Check
  | 0, _, _, _, _ => []
  | _ + 1, _, .always true, _, _ => []
  | _ + 1, _, .always false, value, place => [place.violation (refusal value)]
  | depth + 1, followed, .keywords list, value, place =>
    list.flatMap fun (name, keyword) =>
      keywordViolations targets (violationsWithin targets depth) followed name keyword value place

/-- Everything that is wrong with a value, in order of keywords. Between two steps into the value,
every reference is followed once at most, and between two references the schema gets smaller. -/
def violations (validator : Validator) (value : Json) : List Violation :=
  let bound := (value.height + 2) * (validator.targets.length + 2) * (validator.depth + 2)
  violationsWithin validator.targets bound [] (.keywords [("$ref", .reference validator.reference)])
    value .start

end Validator

end SpecLint.Validation
