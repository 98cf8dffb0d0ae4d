import SpecLint.Yaml.Scalar.Quoted

/-!
Tags, anchors and directives, each read from its indicator on.
-/

namespace SpecLint.Yaml

/-- A tag as it is written: a handle, which stands for a prefix, and the text after it. -/
structure WrittenTag where
  handle : String
  suffix : String
deriving DecidableEq, Repr

/-- A directive before a document. -/
inductive Directive where
  | version (major minor : Nat)
  | tag (handle start : String)
deriving DecidableEq, Repr

/-- Whether a character other than a percent sign may stand in a tag. -/
def isTagChar (verbatim : Bool) (c : Char) : Bool :=
  isWordChar c || ";/?:@&=+$.!~*'()".toList.contains c ||
    (verbatim && (c = ',' || c = '[' || c = ']'))

/-- How many bytes follow the first byte of an encoded character. -/
def followingBytes? (first : Nat) : Option Nat :=
  if first < 0x80 then some 0
  else if 0xC0 ≤ first && first < 0xE0 then some 1
  else if 0xE0 ≤ first && first < 0xF0 then some 2
  else if 0xF0 ≤ first && first < 0xF8 then some 3
  else none

/-- The byte that a percent sign and two digits denote. -/
def escapedByte? : List Char → Option Nat
  | '%' :: a :: b :: _ => (hexDigit? a).bind fun a => (hexDigit? b).map fun b => a * 16 + b
  | _ => none

/-- Some further bytes of an encoded character. -/
def scanFollowingBytes : (count : Nat) → (value : Nat) → Cursor → Scan Nat
  | 0, value, here => .ok (value, here)
  | count + 1, value, here =>
    match escapedByte? here.rest with
    | none => .error .tag
    | some byte =>
      if 0x80 ≤ byte && byte < 0xC0 then
        scanFollowingBytes count (value * 64 + byte % 64) (here.skipMany 3)
      else .error .tag

/-- A character written as the bytes of its encoding. -/
def scanEncodedChar (here : Cursor) : Scan Char :=
  match escapedByte? here.rest with
  | none => .error .tag
  | some first =>
    match followingBytes? first with
    | none => .error .tag
    | some count =>
      let start := if count = 0 then first else first % (1 <<< (6 - count))
      match scanFollowingBytes count start (here.skipMany 3) with
      | .error fault => .error fault
      | .ok (value, next) => .ok (Char.ofNat value, next)

/-- The characters of a tag, in reverse; every step reads one. -/
def scanTagChars (verbatim : Bool) : (fuel : Nat) → (collected : List Char) → Cursor →
    Scan (List Char)
  | 0, collected, here => .ok (collected, here)
  | fuel + 1, collected, here =>
    match here.rest with
    | [] => .ok (collected, here)
    | c :: _ =>
      if c = '%' then
        match scanEncodedChar here with
        | .error fault => .error fault
        | .ok (c, next) => scanTagChars verbatim fuel (c :: collected) next
      else if isTagChar verbatim c then scanTagChars verbatim fuel (c :: collected) here.skip
      else .ok (collected, here)

/-- The text of a tag after `head`, of which the first character does not count as text but saves
the tag from being empty. -/
def scanTagText (verbatim : Bool) (head : List Char) (here : Cursor) : Scan String :=
  match scanTagChars verbatim (here.rest.length + 1) [] here with
  | .error fault => .error fault
  | .ok (collected, next) =>
    if head.isEmpty && collected.isEmpty then .error .tag
    else .ok (String.ofList (head.drop 1 ++ collected.reverse), next)

/-- A handle: an exclamation mark, and perhaps a word and another mark. In a directive the second
mark has to stand unless the handle is a single mark. -/
def scanHandle (inDirective : Bool) (here : Cursor) : Scan (List Char) :=
  match here.rest with
  | '!' :: _ =>
    let (word, next) := here.skip.takeWhile isWordChar
    match next.rest with
    | '!' :: _ => .ok ('!' :: word ++ ['!'], next.skip)
    | _ => if inDirective && !word.isEmpty then .error .tag else .ok ('!' :: word, next)
  | _ => .error .tag

/-- A tag; the cursor stands at its exclamation mark. -/
def scanTag (inFlow : Bool) (here : Cursor) : Scan WrittenTag :=
  let finish (tag : WrittenTag) (here : Cursor) : Scan WrittenTag :=
    if endsWord here.rest || (inFlow && here.rest.head? == some ',') then .ok (tag, here)
    else .error .tag
  match here.rest with
  | '!' :: '<' :: _ =>
    match scanTagText true [] (here.skipMany 2) with
    | .error fault => .error fault
    | .ok (suffix, next) =>
      if next.rest.head? == some '>' then finish ⟨"", suffix⟩ next.skip else .error .tag
  | _ =>
    match scanHandle false here with
    | .error fault => .error fault
    | .ok (handle, next) =>
      if handle.length > 1 && handle.getLast? == some '!' then
        match scanTagText false [] next with
        | .error fault => .error fault
        | .ok (suffix, next) => finish ⟨String.ofList handle, suffix⟩ next
      else
        match scanTagText false handle next with
        | .error fault => .error fault
        | .ok (suffix, next) =>
          finish (if suffix = "" then ⟨"", "!"⟩ else ⟨"!", suffix⟩) next

/-- The name of an anchor or an alias; the cursor stands at the indicator. -/
def scanAnchor (here : Cursor) : Scan String :=
  let (name, next) := here.skip.takeWhile isWordChar
  let closes := endsWord next.rest || next.rest.head?.any fun c => "?:,]\x7d%@`".toList.contains c
  if name.isEmpty || !closes then .error .anchor else .ok (String.ofList name, next)

/-- A number of a version, of at most nine digits. -/
def scanVersionNumber (here : Cursor) : Scan Nat :=
  let (digits, next) := here.takeWhile Char.isDigit
  if digits.isEmpty || digits.length > 9 then .error .directive
  else .ok (digits.foldl (fun n c => n * 10 + (c.toNat - '0'.toNat)) 0, next)

/-- The content of a directive after its name. -/
def scanDirectiveContent (name : List Char) (here : Cursor) : Scan Directive :=
  let here := here.skipWhile isSpace
  if name = "YAML".toList then
    match scanVersionNumber here with
    | .error fault => .error fault
    | .ok (major, here) =>
      if here.rest.head? != some '.' then .error .directive
      else
        match scanVersionNumber here.skip with
        | .error fault => .error fault
        | .ok (minor, here) => .ok (.version major minor, here)
  else if name = "TAG".toList then
    match scanHandle true here with
    | .error fault => .error fault
    | .ok (handle, here) =>
      if !here.rest.head?.any isSpace then .error .directive
      else
        match scanTagText true [] (here.skipWhile isSpace) with
        | .error fault => .error fault
        | .ok (start, here) =>
          if endsWord here.rest then .ok (.tag (String.ofList handle) start, here)
          else .error .directive
  else .error .directive

/-- A directive; the cursor stands at its percent sign. -/
def scanDirective (here : Cursor) : Scan Directive :=
  let (name, here) := here.skip.takeWhile isWordChar
  if name.isEmpty || !endsWord here.rest then .error .directive
  else scanDirectiveContent name here

end SpecLint.Yaml
