import SpecLint.Coordinate.Family
import SpecLint.Document.Kind
import SpecLint.Json.Pointer
import SpecLint.Uri.Basic
import SpecLint.Uri.Percent

/-!
Documents as references see them: a document is served at a base, a definition in it is referred to
by the base and a pointer, and at every other place there is an empty object.
-/

namespace SpecLint.Conformance

/-- The host of documents that do not say where they are. -/
def syntheticHost : String := "https://acp-lint.local"

/-- The base of a document: its identifier up to the fragment if that is absolute, and otherwise a
place of its own for the version and the family. -/
def documentBase (document : JsonSchemaDocument) (version : VersionTag) (family : Family) : String :=
  let own := syntheticHost ++ "/" ++ version.text ++ "/" ++ family.text ++ ".json"
  match document.id? with
  | some id => if Text.contains "://" id then String.ofList (id.toList.takeWhile (· != '#')) else own
  | none => own

/-- A document at its base. -/
structure Served where
  document : Members
  base : String
deriving Inhabited

namespace Served

/-- A document is served without its identifier, unless that agrees with the base. -/
def ofDocument (document : JsonSchemaDocument) (base : String) : Served :=
  let members := document.root.members
  let agrees := document.id?.any (Text.startsWith base)
  ⟨if agrees then members else members.erase "$id", base⟩

theorem get?_ofDocument {key : String} (h : key ≠ "$id") (document : JsonSchemaDocument)
    (base : String) :
    (ofDocument document base).document.get? key = document.root.get? key := by
  simp only [ofDocument]
  split
  · rfl
  · exact Members.get?_erase_of_ne h

def value (served : Served) : Json := .object served.document

/-- Whether there is a definition of a name. -/
def hasDefinition (served : Served) (name : String) : Bool :=
  (Members.get? (tableEntries (served.document.get? "$defs")) name).isSome

/-- Whether a byte may stand in a fragment as it is, as part of a token of a pointer. -/
def isTokenByte (b : UInt8) : Bool :=
  b != Percent.sign && b.toNat < 0x80 && Uri.isPathChar (Char.ofNat b.toNat)

/-- A name as a token of a pointer in a fragment. -/
def pointerToken (name : String) : String :=
  let escaped := String.ofList (Json.Pointer.escape name.toList)
  let bytes := Percent.encode isTokenByte escaped.toUTF8.toList
  String.ofList (bytes.map fun b => Char.ofNat b.toNat)

/-- The reference to a definition from outside. -/
def referenceTo (served : Served) (name : String) : String :=
  served.base ++ "#/$defs/" ++ pointerToken name

/-- The schema of the values that satisfy a definition. -/
def wrapper (served : Served) (name : String) : Json :=
  .mkObject [("$ref", .string (served.referenceTo name))]

/-- What is found at a place: at the base the document, and anywhere else an empty object. -/
def retrieve (served : Served) (place : String) : Json :=
  if String.ofList (Uri.splitMark '#' place.toList).1 = served.base then served.value
  else .object []

end Served

end SpecLint.Conformance
