import SpecLint.Validation.Assertion

/-!
Schemas as they are checked: a schema accepts all values or none, or it is a list of keywords in
order, each with the name under which its failures are reported. `Schema.read` refuses keywords
whose values have the wrong form.
-/

namespace SpecLint.Validation

/-- Why a definition cannot be used to check values. -/
inductive SchemaFault where
  | unknownDialect (dialect : String)
  | badBase (base : String)
  | badReference (reference : String)
  | unresolvable (reference : String)
  | badKeyword (name : String)
  | notASchema
deriving DecidableEq, Repr

def SchemaFault.message : SchemaFault → String
  | .unknownDialect dialect => "unknown dialect: " ++ dialect
  | .badBase base => "the base is not an absolute reference in normal form: " ++ base
  | .badReference reference => "not a reference: " ++ reference
  | .unresolvable reference => "the reference leads nowhere: " ++ reference
  | .badKeyword name => "the keyword has the wrong form: " ++ name
  | .notASchema => "neither an object nor a boolean"

mutual

inductive Schema where
  | always (accepts : Bool)
  | keywords (list : List (String × Keyword))

/-- A keyword with what it says. -/
inductive Keyword where
  | assertion (assertion : Assertion)
  | reference (target : String)
  | allOf (branches : List Schema)
  | anyOf (branches : List Schema)
  | oneOf (branches : List Schema)
  /-- The refused schema, and its text for the wording. -/
  | negation (shown : String) (schema : Schema)
  | conditional (test : Schema) (positive negative : Option Schema)
  | properties (table : List (String × Schema))
  | patternProperties (table : List (String × Regex × Schema))
  /-- The schemas of named properties, of properties with matching names, and of the others; without
  a schema there may be no others. -/
  | allProperties (named : List (String × Schema)) (matching : List (String × Regex × Schema))
    (others : Option Schema)
  | noProperty
  | itemsInOrder (schemas : List Schema)
  | itemsFrom (start : Nat) (schema : Schema)
  | noItemsFrom (start : Nat)
  | contains (schema : Schema)
  | propertyNames (schema : Schema)

end

namespace Schema

abbrev Reading (α : Type) := Except SchemaFault α

/-- The value, or the complaint that the keyword has the wrong form. -/
def demanded {α : Type} (keyword : String) : Option α → Reading α
  | some a => .ok a
  | none => .error (.badKeyword keyword)

/-- The texts of an array of strings. -/
def texts? (value : Json) : Option (List String) :=
  value.items?.bind (·.mapM Json.text?)

/-- A limit on a count. Since the sixth draft it may be written with a fraction of zero, and a
negative one stands for zero. -/
def limit? (draft : Draft) : Json → Option Nat
  | .number (.int i) => if 0 ≤ i || draft.isFrom .draft6 then some i.toNat else none
  | .number (.float x) =>
    if draft.isFrom .draft6 && x.isIntegral then some (min x.truncate.toNat 0xFFFFFFFFFFFFFFFF)
    else none
  | _ => none

def number? : Json → Option Number
  | .number n => some n
  | _ => none

/-- The types that are named, one or a list of them. -/
def types? : Json → Option (List TypeName × Bool)
  | .string name => (TypeName.ofText? name).map fun type => ([type], false)
  | .array items =>
    (items.mapM fun item => (Json.text? item).bind TypeName.ofText?).map fun names =>
      (TypeName.all.filter names.contains, items.length != 1)
  | _ => none

/-- The names that are required beside a name: lists without repetitions. -/
def dependencies? (value : Json) : Option (List (String × List String)) :=
  value.members?.bind (·.mapM fun (name, names) =>
    ((texts? names).filter fun names => names.eraseDups.length == names.length).map (name, ·))

/-- The assertion that a limit is. Before the sixth draft, a flag beside the limit makes it
exclusive. -/
def boundOf (draft : Draft) (siblings : Members) (kind strict : Bound) (value : Json) :
    Option (String × Assertion) :=
  let flagged :=
    match siblings.get? strict.keyword with
    | some (.boolean flag) => !draft.isFrom .draft6 && flag
    | _ => false
  let kind := if flagged then strict else kind
  (number? value).map fun limit => (kind.keyword, .bound kind limit)

/-- The assertion that a keyword is, with the name for reports, if the keyword is one in the draft
and asserts anything. -/
def readAssertion (draft : Draft) (siblings : Members) (name : String) (value : Json) :
    Reading (Option (String × Assertion)) :=
  let always (assertion : Option Assertion) :=
    (demanded name assertion).map fun a => some (name, a)
  let since (first : Draft) (assertion : Option Assertion) :=
    if draft.isFrom first then always assertion else .ok none
  match name with
  | "type" => always ((types? value).map fun (names, listed) =>
      .type names listed (draft.isFrom .draft6))
  | "enum" => always (value.items?.map .enumeration)
  | "const" => since .draft6 (some (.constant value))
  | "minimum" => (demanded name (boundOf draft siblings .minimum .exclusiveMinimum value)).map some
  | "maximum" => (demanded name (boundOf draft siblings .maximum .exclusiveMaximum value)).map some
  | "exclusiveMinimum" => since .draft6 ((number? value).map (.bound .exclusiveMinimum))
  | "exclusiveMaximum" => since .draft6 ((number? value).map (.bound .exclusiveMaximum))
  | "multipleOf" => always ((number? value).map fun n => .multipleOf n.nearest)
  | "minLength" => always ((limit? draft value).map (.atLeast .characters))
  | "maxLength" => always ((limit? draft value).map (.atMost .characters))
  | "minItems" => always ((limit? draft value).map (.atLeast .items))
  | "maxItems" => always ((limit? draft value).map (.atMost .items))
  | "minProperties" => always ((limit? draft value).map (.atLeast .properties))
  | "maxProperties" => always ((limit? draft value).map (.atMost .properties))
  | "uniqueItems" =>
    match value with
    | .boolean true => always (some .uniqueItems)
    | .boolean false => .ok none
    | _ => always none
  | "required" => always ((texts? value).map .required)
  | "dependentRequired" => since .draft201909 ((dependencies? value).map .dependentRequired)
  | "pattern" => always (value.text?.bind fun text => (Regex.parse? text).map (.pattern text))
  | "format" =>
    (demanded name value.text?).map fun text =>
      (Format.ofName? draft text).map fun format => (name, .format format)
  | _ => .ok none

/-- Whether a keyword of properties closes the list of the properties that are checked one by
one. -/
def isTakenOver (siblings : Members) : Bool :=
  match siblings.get? "additionalProperties" with
  | some (.boolean false) | some (.object _) => true
  | _ => false

def readTable (read : Json → Reading Schema) (name : String) (value : Json) :
    Reading (List (String × Schema)) := do
  let members ← demanded name value.members?
  members.mapM fun (key, schema) => (read schema).map (key, ·)

/-- The schemas of a table whose keys are regular expressions. -/
def readPatterns (read : Json → Reading Schema) (name : String) (value : Json) :
    Reading (List (String × Regex × Schema)) := do
  let members ← demanded name value.members?
  members.mapM fun (key, schema) => do
    let regex ← demanded name (Regex.parse? key)
    let schema ← read schema
    return (key, regex, schema)

/-- A table of a sibling keyword; nothing if there is none. -/
def readSibling {α : Type} (read : (name : String) → Json → Reading (List α)) (siblings : Members)
    (name : String) : Reading (List α) :=
  match siblings.get? name with
  | some value => read name value
  | none => .ok []

def readList (read : Json → Reading Schema) (name : String) (value : Json) :
    Reading (List Schema) := do
  let items ← demanded name value.items?
  items.mapM read

/-- The schema of a sibling keyword, if there is one. -/
def readOption (read : Json → Reading Schema) (siblings : Members) (name : String) :
    Reading (Option Schema) :=
  match siblings.get? name with
  | some value => (read value).map some
  | none => .ok none

/-- What is said about properties without a schema of their own. -/
def readAdditionalProperties (read : Json → Reading Schema) (siblings : Members) (value : Json) :
    Reading (Option Keyword) := do
  let matching ← readSibling (readPatterns read) siblings "patternProperties"
  match value with
  | .boolean true => return none
  | .boolean false =>
    if siblings.has "properties" || siblings.has "patternProperties" then
      let named ← readSibling (readTable read) siblings "properties"
      return some (.allProperties named matching none)
    else return some .noProperty
  | other =>
    let named ← readSibling (readTable read) siblings "properties"
    let others ← read other
    return some (.allProperties named matching (some others))

/-- What is said about items: a schema for each of the first ones, or one schema for all that have
none in another list. -/
def readItems (read : Json → Reading Schema) (siblings : Members) (value : Json) :
    Reading (Option Keyword) := do
  match value with
  | .array schemas => return some (.itemsInOrder (← schemas.mapM read))
  | .object _ | .boolean false =>
    let start :=
      match siblings.get? "prefixItems" with
      | some (.array schemas) => schemas.length
      | _ => 0
    return some (.itemsFrom start (← read value))
  | _ => return none

/-- What is said about items after a list of schemas for the first ones. -/
def readAdditionalItems (read : Json → Reading Schema) (siblings : Members) (value : Json) :
    Reading (Option Keyword) := do
  match siblings.get? "items" with
  | some (.array schemas) =>
    match value with
    | .boolean false => return some (.noItemsFrom schemas.length)
    | .object _ => return some (.itemsFrom schemas.length (← read value))
    | _ => return none
  | none | some (.object _) | some (.boolean _) => return none
  | some _ => throw (.badKeyword "items")

/-- The keyword of a name, with the name for reports, if it says anything in the draft. -/
def readKeyword (draft : Draft) (read : Json → Reading Schema) (siblings : Members)
    (name : String) (value : Json) : Reading (Option (String × Keyword)) :=
  let named (keyword : Reading Keyword) := keyword.map fun k => some (name, k)
  let since (first : Draft) (keyword : Reading (Option Keyword)) :
      Reading (Option (String × Keyword)) :=
    if draft.isFrom first then keyword.map (·.map (name, ·)) else .ok none
  let unlessTakenOver (keyword : Reading Keyword) :=
    if isTakenOver siblings then .ok none else named keyword
  match name with
  | "$ref" => named ((demanded name value.text?).map .reference)
  | "allOf" => named ((readList read name value).map .allOf)
  | "anyOf" => named ((readList read name value).map .anyOf)
  | "oneOf" => named ((readList read name value).map .oneOf)
  | "not" => named ((read value).map (.negation value.compact))
  | "properties" => unlessTakenOver ((readTable read name value).map .properties)
  | "patternProperties" =>
    unlessTakenOver ((readPatterns read name value).map .patternProperties)
  | "additionalProperties" => since .draft4 (readAdditionalProperties read siblings value)
  | "items" => since .draft4 (readItems read siblings value)
  | "additionalItems" => since .draft4 (readAdditionalItems read siblings value)
  | "prefixItems" =>
    since .draft202012 ((readList read name value).map fun list => some (.itemsInOrder list))
  | "contains" => since .draft6 ((read value).map fun schema => some (.contains schema))
  | "propertyNames" =>
    since .draft6
      (match value with
      | .object _ | .boolean false => (read value).map fun schema => some (.propertyNames schema)
      | _ => .ok none)
  | "if" =>
    since .draft7 do
      if siblings.has "then" || siblings.has "else" then
        let test ← read value
        let positive ← readOption read siblings "then"
        let negative ← readOption read siblings "else"
        return some (.conditional test positive negative)
      else return none
  | _ =>
    (readAssertion draft siblings name value).map
      (·.map fun (name, assertion) => (name, .assertion assertion))

/-- Reads a schema of a draft. Until the seventh draft a reference hides its siblings. The fuel
bounds the depth. -/
def readWithin (draft : Draft) : Nat → Json → Reading Schema
  | _, .boolean accepts => .ok (.always accepts)
  | fuel + 1, .object members => do
    let seen :=
      if Members.has members "$ref" && !draft.isFrom .draft201909 then
        members.filter fun (name, _) => name == "$ref"
      else members
    let list ← seen.mapM fun (name, value) =>
      readKeyword draft (readWithin draft fuel) seen name value
    return .keywords (list.filterMap id)
  | _, _ => .error .notASchema

/-- Reads a schema of a draft. -/
def read (draft : Draft) (value : Json) : Reading Schema :=
  readWithin draft value.height value

end Schema

end SpecLint.Validation
