import SpecLint.Files.Tree
import SpecLint.Json.Reader
import SpecLint.Number.Decimal

/-!
Listings: files and directories as one JSON object from paths to contents. A content is a text, an
object with the bytes in hexadecimal digits under `hex`, or an object with `dir` for a directory.
-/

namespace SpecLint

namespace FileTree

/-- The bytes that pairs of hexadecimal digits denote; none if the text is no such pairs. -/
def bytesOfHex? : List Char → Option (List UInt8)
  | [] => some []
  | high :: low :: rest =>
    match Decimal.natural? 16 [high, low], bytesOfHex? rest with
    | some n, some bytes => some (UInt8.ofNat n :: bytes)
    | _, _ => none
  | [_] => none

/-- The file or directory that an entry of a listing describes. -/
def ofContent (content : Json) : FileTree :=
  match content with
  | .string text => .file text.toUTF8
  | other =>
    match (other.get? "hex").bind fun hex => hex.text?.bind fun text => bytesOfHex? text.toList with
    | some bytes => .file ⟨bytes.toArray⟩
    | none => emptyDirectory

/-- The names on the way along a path. -/
def namesOf (path : FilePath) : List String :=
  (FileSystem.components path).filter fun part => part != "" && part != "."

/-- The directory that a listing describes. -/
def ofListing (listing : Json) : FileTree :=
  (listing.members?.getD []).foldl (fun tree (path, content) =>
    tree.insert (namesOf ⟨path⟩) (ofContent content)) emptyDirectory

end FileTree

namespace FileSystem

/-- The files of a listing in a directory, which is also where relative paths start. -/
def ofListing (directory : FilePath) (listing : Json) : FileSystem :=
  ⟨FileTree.emptyDirectory.insert (FileTree.namesOf directory) (.ofListing listing), directory⟩

/-- The files that a text describes: a JSON object with a listing under `files` and an absolute path
under `directory`, without which the listing stands at the top. -/
def ofText? (text : String) : Option FileSystem :=
  match Json.parse text with
  | .error _ => none
  | .ok description =>
    let directory := ((description.get? "directory").bind Json.text?).getD "/"
    some (ofListing ⟨directory⟩ ((description.get? "files").getD .null))

end FileSystem

end SpecLint
