import SpecLint.Json.Pointer
import SpecLint.Uri.Percent
import SpecLint.Uri.Resolve
import SpecLint.Validation.Schema

/-!
References in a resource. They are resolved against the base of the resource; what they lead to
outside of it is asked for by its place.
-/

namespace SpecLint.Validation

/-- A resource by its base, and what there is at any place. -/
structure Resources where
  base : String
  retrieve : String → Json

namespace Resources

/-- The resource at the base. -/
def root (resources : Resources) : Json := resources.retrieve resources.base

/-- The place that references in the resource are resolved against: the base, which has to be an
absolute reference in normal form, or the identifier of the resource. -/
def home? (resources : Resources) : Option Uri :=
  match Uri.parse? resources.base with
  | none => none
  | some base =>
    if base.scheme.isNone || base.normal.text != resources.base then none
    else
      match (resources.root.get? "$id").bind Json.text? with
      | none => some base
      | some id => ((Uri.parse? id).bind base.resolve?).map Uri.resource

/-- The resource at an absolute place. -/
def resource (resources : Resources) (home place : Uri) : Json :=
  if place.resource = home then resources.root else resources.retrieve place.resource.text

/-- The absolute place of a reference and the value there. -/
def lookup (resources : Resources) (reference : String) : Schema.Reading (Uri × Json) :=
  match resources.home? with
  | none => .error (.badBase resources.base)
  | some home =>
    match (Uri.parse? reference).bind home.resolve? with
    | none => .error (.badReference reference)
    | some place =>
      let fragment := String.ofList ((Uri.splitMark '#' reference.toList).2.getD [])
      let found := (Uri.fragmentText? fragment).bind fun pointer =>
        Json.Pointer.resolve? (resources.resource home place) pointer.toList
      match found with
      | some value => .ok (place, value)
      | none => .error (.unresolvable reference)

mutual

/-- The texts of all references in a value. -/
def references : Json → List String
  | .array items => referencesOfItems items
  | .object members => referencesOfMembers members
  | _ => []

/-- The texts of all references in items. -/
def referencesOfItems : List Json → List String
  | [] => []
  | item :: rest => references item ++ referencesOfItems rest

/-- The texts of all references in members. -/
def referencesOfMembers : List (String × Json) → List String
  | [] => []
  | (key, .string text) :: rest =>
    if key = "$ref" then text :: referencesOfMembers rest else referencesOfMembers rest
  | (_, value) :: rest => references value ++ referencesOfMembers rest

end

/-- The first reference to another resource that is not well formed. -/
def badReference? (resources : Resources) (home : Uri) : Option String :=
  (references resources.root).find? fun reference =>
    reference.toList.head? != some '#' && ((Uri.parse? reference).bind home.resolve?).isNone

def dialects : List String :=
  ["https://json-schema.org/draft/2020-12/schema", "https://json-schema.org/draft/2019-09/schema",
    "http://json-schema.org/draft-07/schema", "http://json-schema.org/draft-06/schema",
    "http://json-schema.org/draft-04/schema"]

/-- The declared dialect, if it is a text that names none. -/
def unknownDialect? (resources : Resources) : Option String :=
  ((resources.root.get? "$schema").bind Json.text?).filter fun dialect =>
    !dialects.contains (String.ofList (dialect.toList.reverse.dropWhile (· == '#')).reverse)

end Resources

end SpecLint.Validation
