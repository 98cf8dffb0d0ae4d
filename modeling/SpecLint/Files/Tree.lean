import SpecLint.Files.Path
import SpecLint.Text.Search

/-!
Files and directories, and how a path finds its way among them. Two dots lead to the directory
above, and every component but the last has to be a directory. A repository has its root in the
nearest directory with a directory `spec`, and paths may start there.
-/

namespace SpecLint

/-- A file with its bytes, or a directory with its entries. -/
inductive FileTree where
  | file (content : ByteArray)
  | directory (entries : List (String × FileTree))
deriving Inhabited

/-- Why a file cannot be read as text. -/
inductive FileError where
  | notFound
  | notADirectory
  | isADirectory
  | notUtf8
deriving DecidableEq, Repr

def FileError.message : FileError → String
  | .notFound => "No such file or directory (os error 2)"
  | .notADirectory => "Not a directory (os error 20)"
  | .isADirectory => "Is a directory (os error 21)"
  | .notUtf8 => "stream did not contain valid UTF-8"

namespace FileTree

def emptyDirectory : FileTree := .directory []

def isDirectory : FileTree → Bool
  | .file _ => false
  | .directory _ => true

/-- The entries of a directory; a file has none. -/
def entries : FileTree → List (String × FileTree)
  | .file _ => []
  | .directory entries => entries

/-- What components lead to, from a directory below some others. -/
def walk : (above : List FileTree) → FileTree → List String → Except FileError FileTree
  | _, tree, [] => .ok tree
  | _, .file _, _ :: _ => .error .notADirectory
  | above, .directory entries, name :: rest =>
    if name = "" || name = "." then walk above (.directory entries) rest
    else if name = ".." then
      match above with
      | [] => walk [] (.directory entries) rest
      | parent :: above => walk above parent rest
    else
      match entries.lookup name with
      | some tree => walk (.directory entries :: above) tree rest
      | none => .error .notFound

/-- The bytes of a file as text. -/
def text (tree : FileTree) : Except FileError String :=
  match tree with
  | .directory _ => .error .isADirectory
  | .file content =>
    match String.fromUTF8? content with
    | some text => .ok text
    | none => .error .notUtf8

/-- The tree with something at a place below; directories on the way are made. -/
def insert (tree : FileTree) : (parts : List String) → (content : FileTree) → FileTree
  | [], content => content
  | name :: rest, content =>
    let inner := ((tree.entries.lookup name).getD emptyDirectory).insert rest content
    .directory (tree.entries.filter (fun entry => entry.1 != name) ++ [(name, inner)])

end FileTree

/-- Everything that paths can lead to, and the directory in which relative paths start. -/
structure FileSystem where
  root : FileTree
  /-- An absolute path. -/
  workingDirectory : FilePath

namespace FileSystem

def components (path : FilePath) : List String :=
  (Text.splitAt '/' path.text.toList).map String.ofList

def locate (files : FileSystem) (path : FilePath) : Except FileError FileTree :=
  if path.text = "" then .error .notFound
  else
    let start := if path.isAbsolute then [] else components files.workingDirectory
    FileTree.walk [] files.root (start ++ components path)

/-- Whether a path leads to anything. -/
def pathExists (files : FileSystem) (path : FilePath) : Bool := (files.locate path).isOk

/-- Whether a path leads to a directory. -/
def isDirectory (files : FileSystem) (path : FilePath) : Bool :=
  (files.locate path).toOption.any FileTree.isDirectory

/-- Whether a path leads to a file. -/
def isFile (files : FileSystem) (path : FilePath) : Bool :=
  (files.locate path).toOption.any (!·.isDirectory)

/-- The names in a directory, in no particular order; there are none if it is no directory. -/
def list (files : FileSystem) (path : FilePath) : List String :=
  match files.locate path with
  | .ok tree => tree.entries.map Prod.fst
  | .error _ => []

def readText (files : FileSystem) (path : FilePath) : Except FileError String :=
  (files.locate path).bind FileTree.text

/-! ### Repositories -/

/-- Whether a directory is the root of a repository. -/
def isRepoRoot (files : FileSystem) (directory : FilePath) : Bool :=
  files.isDirectory (directory.join "spec")

/-- The nearest root of a repository, from a directory upward. -/
def repoRoot? (files : FileSystem) (start : FilePath) : Option FilePath :=
  start.ancestors.find? files.isRepoRoot

/-- The path inside a repository, if it is relative and leads to anything there; otherwise the path
as it is. -/
def resolve (files : FileSystem) (path root : FilePath) : FilePath :=
  if path.isAbsolute then path
  else
    let inside := root.join path.text
    if files.pathExists inside then inside else path

end FileSystem

end SpecLint
