import SpecLint.Text.Quote
import SpecLint.Yaml.Scalar.Meaning

/-!
YAML values. Tags of a document's own are kept beside the value. No two keys of a mapping are equal
in what a reader yields.
-/

namespace SpecLint.Yaml

inductive Value where
  | null
  | boolean (value : Bool)
  | number (value : Number)
  | string (text : String)
  | sequence (items : List Value)
  | mapping (entries : List (Value × Value))
  | tagged (tag : String) (value : Value)
deriving Inhabited

namespace Value

/-- A tag with an exclamation mark before its text, unless the text starts with one itself. -/
def tagText (tag : String) : String :=
  match tag.toList with
  | '!' :: c :: rest => String.ofList ('!' :: c :: rest)
  | text => String.ofList ('!' :: text)

mutual

/-- Whether two values are equal; the order of a mapping does not count. -/
def same : Value → Value → Bool
  | .null, .null => true
  | .boolean a, .boolean b => a == b
  | .number a, .number b => a.same b
  | .string a, .string b => a == b
  | .sequence a, .sequence b => sameItems a b
  | .mapping a, .mapping b => a.length == b.length && sameEntries a b
  | .tagged s a, .tagged t b => tagText s == tagText t && same a b
  | _, _ => false

/-- Whether two lists hold equal values at equal places. -/
def sameItems : List Value → List Value → Bool
  | [], [] => true
  | a :: as, b :: bs => same a b && sameItems as bs
  | _, _ => false

/-- Whether every entry of the first mapping is in the second. -/
def sameEntries : List (Value × Value) → List (Value × Value) → Bool
  | [], _ => true
  | (key, value) :: rest, other =>
    other.any (fun (k, v) => same key k && same value v) && sameEntries rest other

end

mutual

/-- A value with all its parts, for messages. -/
def described : Value → String
  | .null => "Null"
  | .boolean value => "Bool(" ++ (if value then "true" else "false") ++ ")"
  | .number value => "Number(" ++ value.text ++ ")"
  | .string text => "String(" ++ Text.quoted text ++ ")"
  | .sequence items => "Sequence [" ++ ", ".intercalate (describedItems items) ++ "]"
  | .mapping entries => "Mapping \x7b" ++ ", ".intercalate (describedEntries entries) ++ "\x7d"
  | .tagged tag value =>
    "TaggedValue \x7b tag: " ++ tagText tag ++ ", value: " ++ described value ++ " \x7d"

/-- The items of a sequence, for messages. -/
def describedItems : List Value → List String
  | [] => []
  | item :: rest => described item :: describedItems rest

/-- The entries of a mapping, for messages; scalar keys are shown as they are. -/
def describedEntries : List (Value × Value) → List String
  | [] => []
  | (key, value) :: rest =>
    let shown :=
      match key with
      | .boolean b => if b then "true" else "false"
      | .number n => n.text
      | .string text => Text.quoted text
      | other => described other
    (shown ++ ": " ++ described value) :: describedEntries rest

end

end Value

/-- Whether two of the values are equal. -/
def hasRepeats : List Value → Bool
  | [] => false
  | value :: rest => rest.any value.same || hasRepeats rest

end SpecLint.Yaml
