import SpecLint.Yaml.Node
import SpecLint.Yaml.Value

/-!
Reading of YAML values: what the nodes of a document mean. Tags of the document's own are kept beside
the value; the common tags for truth values and numbers force a meaning. A mapping with two equal
keys is refused.
-/

namespace SpecLint.Yaml

/-- The tags with a meaning that every document knows. -/
def commonTag (name : String) : String := "tag:yaml.org,2002:" ++ name

/-- The value that a text without quotes means. -/
def plainValue (text : String) : Except Fault Value :=
  match meaning text with
  | .null => .ok .null
  | .boolean value => .ok (.boolean value)
  | .number value => .ok (.number value)
  | .outOfRange => .error .number
  | .text => .ok (.string text)

/-- The value of a text with a tag that forces a meaning. -/
def forcedValue (tag text : String) : Except Fault Value :=
  if tag == commonTag "bool" then
    match booleanWord? text with
    | some value => .ok (.boolean value)
    | none => .error .forcedType
  else if tag == commonTag "int" then
    match integerMeaning? text with
    | some (.number value) => .ok (.number value)
    | _ => .error .forcedType
  else if tag == commonTag "float" then
    match float? text with
    | some value => .ok (.number value)
    | none => .error .forcedType
  else if tag == commonTag "null" then
    if isNullWord text then .ok .null else .error .forcedType
  else .ok (.string text)

/-- The text of a tag of the document's own, without the exclamation mark before it. -/
def localTag? (tag : String) : Option String :=
  match tag.toList with
  | '!' :: text => some (String.ofList text)
  | _ => none

/-- Whether a tag is the document's own. -/
def isLocalTag (tag : String) : Bool := (localTag? tag).isSome

/-- The value with its tag, if the tag is the document's own; such a tag may not be empty. -/
def withTag (tag : Option String) (value : Value) : Except Fault Value :=
  match tag.bind localTag? with
  | none => .ok value
  | some "" => .error .emptyTag
  | some text => .ok (.tagged text value)

def scalarValue (tag : Option String) (text : String) (plain : Bool) : Except Fault Value :=
  let untagged := if plain then plainValue text else .ok (.string text)
  match tag with
  | none => untagged
  | some tag => if isLocalTag tag then untagged.bind (withTag (some tag)) else forcedValue tag text

mutual

def valueOf : Node → Except Fault Value
  | .scalar tag text plain => scalarValue tag text plain
  | .sequence tag items =>
    match valuesOf items with
    | .error fault => .error fault
    | .ok items => withTag tag (.sequence items)
  | .mapping tag entries =>
    match entriesOf entries with
    | .error fault => .error fault
    | .ok entries =>
      if hasRepeats (entries.map Prod.fst) then .error .duplicateKey
      else withTag tag (.mapping entries)

def valuesOf : List Node → Except Fault (List Value)
  | [] => .ok []
  | item :: rest =>
    match valueOf item with
    | .error fault => .error fault
    | .ok item => (valuesOf rest).map (item :: ·)

/-- The values of pairs of nodes. -/
def entriesOf : List (Node × Node) → Except Fault (List (Value × Value))
  | [] => .ok []
  | (key, value) :: rest =>
    match valueOf key with
    | .error fault => .error fault
    | .ok key =>
      match valueOf value with
      | .error fault => .error fault
      | .ok value => (entriesOf rest).map ((key, value) :: ·)

end

def parse (text : String) : Except Fault Value :=
  match parseNode text with
  | .error fault => .error fault
  | .ok node => valueOf node

end SpecLint.Yaml
