/-!
The place in a YAML text, the classes of characters of the format, and why a text is not YAML.
Line ends are made uniform before anything is read: only the two Unicode separators stay beside the
line feed.
-/

namespace SpecLint.Yaml

/-- Why a text is not one YAML document. -/
inductive Fault where
  | character
  | comment
  | directive
  | documentStart
  | severalDocuments
  | blockEntry
  | keyContext
  | valueContext
  | keyWithoutValue
  | anchor
  | tag
  | unknownTagHandle
  | emptyTag
  | blockHeader
  | indentation
  | unfinishedText
  | escape
  | plainColon
  | nodeContent
  | sequenceEntry
  | mappingKey
  | unknownAlias
  | tooDeep
  | tooManyAliases
  | duplicateKey
  | number
  | forcedType
deriving DecidableEq, Repr

def Fault.message : Fault → String
  | .character => "a character that cannot stand here"
  | .comment => "a line end or a comment was expected"
  | .directive => "a malformed or repeated directive"
  | .documentStart => "the start of a document was expected"
  | .severalDocuments => "more than one document"
  | .blockEntry => "a sequence entry is not allowed here"
  | .keyContext => "a mapping key is not allowed here"
  | .valueContext => "a mapping value is not allowed here"
  | .keyWithoutValue => "a key without a colon"
  | .anchor => "a malformed anchor or alias"
  | .tag => "a malformed tag"
  | .unknownTagHandle => "a tag with an unknown handle"
  | .emptyTag => "a tag without a name"
  | .blockHeader => "a malformed header of a block text"
  | .indentation => "a tab where indentation is expected"
  | .unfinishedText => "a quoted text without an end"
  | .escape => "an unknown escape"
  | .plainColon => "a colon that cannot stand here"
  | .nodeContent => "a value was expected"
  | .sequenceEntry => "a sequence entry was expected"
  | .mappingKey => "a mapping key was expected"
  | .unknownAlias => "an alias without an anchor"
  | .tooDeep => "too many levels of nesting"
  | .tooManyAliases => "too many aliases"
  | .duplicateKey => "a repeated mapping key"
  | .number => "an integer out of range"
  | .forcedType => "a value that does not fit its tag"

/-- Whether a character may stand in a YAML text. -/
def isAllowed (c : Char) : Bool :=
  let n := c.toNat
  n == 9 || n == 10 || n == 13 || (0x20 ≤ n && n ≤ 0x7E) || n == 0x85 ||
    (0xA0 ≤ n && n ≤ 0xD7FF) || (0xE000 ≤ n && n ≤ 0xFFFD) || 0x10000 ≤ n

/-- The text with every line end as a line feed. -/
def uniformLines : List Char → List Char
  | [] => []
  | '\r' :: '\n' :: rest => '\n' :: uniformLines rest
  | c :: rest =>
    (if c = '\r' || c.toNat = 0x85 then '\n' else c) :: uniformLines rest

/-- Whether a character ends a line. -/
def isBreak (c : Char) : Bool := c = '\n' || c.toNat == 0x2028 || c.toNat == 0x2029

/-- Whether a character is a space or a tab. -/
def isSpace (c : Char) : Bool := c = ' ' || c = '\t'

/-- Whether a character may stand in the name of an anchor or a handle. -/
def isWordChar (c : Char) : Bool := c.isAlphanum || c = '_' || c = '-'

/-- Whether the next character, if there is one, is blank or ends a line. -/
def endsWord : List Char → Bool
  | [] => true
  | c :: _ => isSpace c || isBreak c

/-- The rest of a text and the place where it starts. -/
structure Cursor where
  rest : List Char
  index : Nat
  line : Nat
  column : Nat
deriving Inhabited

namespace Cursor

def start (text : List Char) : Cursor := ⟨text, 0, 0, 0⟩

/-- Steps over a character of the line. -/
def skip (here : Cursor) : Cursor :=
  { here with rest := here.rest.drop 1, index := here.index + 1, column := here.column + 1 }

/-- Steps over some characters of the line. -/
def skipMany (here : Cursor) (count : Nat) : Cursor :=
  { here with
    rest := here.rest.drop count, index := here.index + count, column := here.column + count }

def skipBreak (here : Cursor) : Cursor :=
  { here with rest := here.rest.drop 1, index := here.index + 1, line := here.line + 1, column := 0 }

/-- The characters of the line for which `p` holds, and the place after them. -/
def takeWhile (here : Cursor) (p : Char → Bool) : List Char × Cursor :=
  let taken := here.rest.takeWhile p
  (taken, here.skipMany taken.length)

/-- The place after the characters of the line for which `p` holds. -/
def skipWhile (here : Cursor) (p : Char → Bool) : Cursor := (here.takeWhile p).2

/-- The place at the end of the line. -/
def skipToBreak (here : Cursor) : Cursor := here.skipWhile fun c => !isBreak c

/-- Whether a marker of documents stands here at the start of a line. -/
def atMarker (here : Cursor) (mark : Char) : Bool :=
  here.column == 0 &&
    match here.rest with
    | a :: b :: c :: rest => a = mark && b = mark && c = mark && endsWord rest
    | _ => false

/-- Whether a document starts or ends here. -/
def atDocumentMarker (here : Cursor) : Bool := here.atMarker '-' || here.atMarker '.'

end Cursor

/-- A part of a text that was read, and the place after it. -/
abbrev Scan (α : Type) := Except Fault (α × Cursor)

/-- Lines joined into one text: a single line end between two lines becomes a space, and of several
the first is dropped. -/
def foldBreaks : (breaks : List Char) → List Char
  | [] => []
  | first :: more =>
    if first = '\n' then if more.isEmpty then [' '] else more
    else first :: more

end SpecLint.Yaml
