import SpecLint.Schema.Path

/-!
Walking over a schema: every node below it with its path, a node before the nodes below it. `visits`
lists the visits of a walk. `walk` makes them with a single path, which is extended on the way down
and cut back on the way up. On top of the walk stands the rule which nodes need a description.
-/

namespace SpecLint.Schema

/-- A node and all nodes below it with their paths, in the order of visits. -/
def visits (node : Node) (path : FieldPath) : List (Node × FieldPath) :=
  (node, path) :: node.children.attach.flatMap fun ⟨(segment, child), h⟩ =>
    have : child.size < node.size := Node.size_lt_of_mem_children h
    visits child (path.child segment)
termination_by node.size

/-- A walk under way: the path at which it stands, and the paths that it has found. -/
structure Trail where
  path : FieldPath
  found : Array FieldPath

namespace Trail

/-- Notes the path at which the walk stands, if it is wanted. -/
def note (trail : Trail) (wanted : Bool) : Trail :=
  if wanted then { trail with found := trail.found.push trail.path } else trail

def enter (trail : Trail) (segment : Segment) : Trail :=
  { trail with path := trail.path.child segment }

def leave (trail : Trail) : Trail :=
  { trail with path := trail.path.parent }

end Trail

/-- Visits a node at the path of a trail, and then all nodes below it. -/
def descend (flagged : Node → FieldPath → Bool) (node : Node) (trail : Trail) : Trail :=
  node.children.attach.foldl
    (fun trail ⟨(segment, child), h⟩ =>
      have : child.size < node.size := Node.size_lt_of_mem_children h
      (descend flagged child (trail.enter segment)).leave)
    (trail.note (flagged node trail.path))
termination_by node.size

/-- The paths of the nodes of a value for which `flagged` holds. -/
def walk (value : Json) (start : FieldPath) (flagged : Node → FieldPath → Bool) :
    List FieldPath :=
  match Node.ofJson? value with
  | none => []
  | some node => (descend flagged node ⟨start, #[]⟩).found.toList

/-- Which nodes need no description although they declare a type. -/
structure WalkOptions where
  /-- The schema at which the walk starts. -/
  skipTopLevel : Bool
  /-- References to other schemas. -/
  skipRefs : Bool
deriving DecidableEq, Repr

namespace WalkOptions

/-- In JSON Schema documents every node with a type needs a description. -/
def jsonSchema : WalkOptions := ⟨false, false⟩

/-- In OpenAPI documents neither the schemas themselves nor references need one. -/
def openApi : WalkOptions := ⟨true, true⟩

end WalkOptions

/-- Whether a node needs a description and has none. Nodes that list their values or are composed
of others speak for themselves. -/
def lacksDescription (options : WalkOptions) (node : Node) (path : FieldPath) : Bool :=
  if node.declaredType?.isNone || node.description?.isSome then false
  else if options.skipTopLevel && path.isRoot then false
  else
    match node.shape with
    | .enumerated | .composite _ => false
    | .reference _ => !options.skipRefs
    | .object | .array | .leaf _ | .untyped => true

/-- The paths of the nodes that need a description and have none. -/
def missingDescriptions (value : Json) (start : FieldPath) (options : WalkOptions) :
    List FieldPath :=
  walk value start (lacksDescription options)

end SpecLint.Schema
