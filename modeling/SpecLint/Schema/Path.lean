import SpecLint.Schema.Node

/-!
Paths of fields: a label for a schema and the steps from it to a node below. A path is written with
points between the steps, and steps that are no properties in brackets.
-/

namespace SpecLint.Schema

def Segment.text : Segment → String
  | .property name => name
  | .items => "[items]"
  | .branch kind index => "[" ++ kind.keyword ++ "[" ++ toString index ++ "]]"
  | .additionalProperties => "[additionalProperties]"

/-- The place of a node below a schema that has a label. -/
structure FieldPath where
  label : String
  segments : List Segment
deriving DecidableEq

namespace FieldPath

/-- The path of the labelled schema itself. -/
def root (label : String) : FieldPath := ⟨label, []⟩

/-- Whether the path leads to the labelled schema itself. -/
def isRoot (path : FieldPath) : Bool := path.segments.isEmpty

def depth (path : FieldPath) : Nat := path.segments.length

def child (path : FieldPath) (segment : Segment) : FieldPath :=
  { path with segments := path.segments ++ [segment] }

/-- The path without its last step. -/
def parent (path : FieldPath) : FieldPath :=
  { path with segments := path.segments.dropLast }

def text (path : FieldPath) : String :=
  let steps := path.segments.map Segment.text
  ".".intercalate (if path.label == "" then steps else path.label :: steps)

/-- The node to which steps lead. -/
def follow : List Segment → Node → Option Node
  | [], node => some node
  | segment :: rest, node => (node.child? segment).bind (follow rest)

/-- The node to which the path leads from the value that the label names. -/
def resolve? (path : FieldPath) (value : Json) : Option Node :=
  (Node.ofJson? value).bind (follow path.segments)

end FieldPath

end SpecLint.Schema
