import SpecLint.Json.Basic
import SpecLint.Number.Binary64

/-!
Reading JSON text. The reader stops at the first fault and says where it stands: a line and the
number of bytes on that line up to the fault. Nesting is limited, integers outside 64 bits become
floating point numbers, and of two members with one key the later counts.
-/

namespace SpecLint.Json

/-- What is wrong with a JSON text. -/
inductive Fault where
  | endInValue
  | endInObject
  | endInList
  | endInString
  | trailingComma
  | keyNotString
  | expectedColon
  | expectedListSeparator
  | expectedObjectSeparator
  | expectedValue
  | expectedIdentifier
  | invalidNumber
  | numberOutOfRange
  | trailingCharacters
  | controlCharacter
  | invalidEscape
  | unfinishedSurrogate
  | loneSurrogate
  | tooDeep
deriving DecidableEq, Repr

def Fault.message : Fault → String
  | .endInValue => "EOF while parsing a value"
  | .endInObject => "EOF while parsing an object"
  | .endInList => "EOF while parsing a list"
  | .endInString => "EOF while parsing a string"
  | .trailingComma => "trailing comma"
  | .keyNotString => "key must be a string"
  | .expectedColon => "expected `:`"
  | .expectedListSeparator => "expected `,` or `]`"
  | .expectedObjectSeparator => "expected `,` or `\x7d`"
  | .expectedValue => "expected value"
  | .expectedIdentifier => "expected ident"
  | .invalidNumber => "invalid number"
  | .numberOutOfRange => "number out of range"
  | .trailingCharacters => "trailing characters"
  | .controlCharacter => "control character (\\u0000-\\u001F) found while parsing a string"
  | .invalidEscape => "invalid escape"
  | .unfinishedSurrogate => "unexpected end of hex escape"
  | .loneSurrogate => "lone leading surrogate in hex escape"
  | .tooDeep => "recursion limit exceeded"

/-- A fault and its place. -/
structure SyntaxError where
  fault : Fault
  line : Nat
  column : Nat
deriving DecidableEq, Repr

/-- The wording of an error, with its place. -/
def SyntaxError.message (e : SyntaxError) : String :=
  e.fault.message ++ " at line " ++ toString e.line ++ " column " ++ toString e.column

/-- The rest of a text and the number of bytes before it. -/
structure Cursor where
  rest : List Char
  offset : Nat

/-- A fault and the number of bytes up to it. -/
structure Stop where
  fault : Fault
  offset : Nat

/-- Reading a part of the text yields a value and the rest. -/
abbrev Reading (α : Type) := Except Stop (α × Cursor)

namespace Cursor

/-- Steps over a character, given the text after it. -/
def after (at_ : Cursor) (c : Char) (rest : List Char) : Cursor :=
  ⟨rest, at_.offset + c.utf8Size⟩

/-- The fault stands just before the cursor. -/
def fail {α : Type} (at_ : Cursor) (fault : Fault) : Except Stop α :=
  .error ⟨fault, at_.offset⟩

/-- The fault stands at the first byte after the cursor, or at the end of the text. -/
def failHere {α : Type} (at_ : Cursor) (fault : Fault) : Except Stop α :=
  .error ⟨fault, if at_.rest.isEmpty then at_.offset else at_.offset + 1⟩

/-- The fault stands at the first byte of the character just before the cursor. -/
def failAfterByte {α : Type} (at_ : Cursor) (fault : Fault) : Except Stop α :=
  .error ⟨fault, at_.offset + 1⟩

/-- Steps over spaces, tabs and line ends. -/
def skipSpace (at_ : Cursor) : Cursor :=
  let isSpace (c : Char) : Bool := c = ' ' || c = '\n' || c = '\t' || c = '\r'
  ⟨at_.rest.dropWhile isSpace, at_.offset + (at_.rest.takeWhile isSpace).length⟩

/-- Steps over a run of decimal digits. -/
def skipDigits (at_ : Cursor) : Cursor :=
  ⟨at_.rest.dropWhile Char.isDigit, at_.offset + (at_.rest.takeWhile Char.isDigit).length⟩

end Cursor

/-- The value of a decimal digit. -/
def digitValue (c : Char) : Nat := c.toNat - '0'.toNat

/-- The value of a hexadecimal digit. -/
def hexValue? (c : Char) : Option Nat :=
  if c.isDigit then some (digitValue c)
  else if 'a' ≤ c ∧ c ≤ 'f' then some (c.toNat - 'a'.toNat + 10)
  else if 'A' ≤ c ∧ c ≤ 'F' then some (c.toNat - 'A'.toNat + 10)
  else none

/-- The greatest unsigned integer of 64 bits. -/
def maxUnsigned : Nat := 0xFFFFFFFFFFFFFFFF

/-- The remaining characters of a literal word. -/
def readWord (word : List Char) (value : Json) (at_ : Cursor) : Reading Json :=
  match word, at_.rest with
  | [], _ => .ok (value, at_)
  | _ :: _, [] => at_.fail .endInValue
  | w :: word, c :: rest =>
    if w = c then readWord word value (at_.after c rest)
    else at_.failAfterByte .expectedIdentifier

/-- Divides by `10 ^ 308` until the power fits the table of powers; the fuel is enough because a
number that was divided three times is zero. -/
def scaleDown : (fuel : Nat) → Binary64 → Int → Binary64 × Int
  | 0, x, power => (x, power)
  | fuel + 1, x, power =>
    if power < -308 && !x.isZero then
      let step := (Binary64.ofDecimal? false 1 308).bind (Binary64.div? x ·)
      scaleDown fuel (step.getD .zero) (power + 308)
    else (x, power)

/-- The significand times a power of ten. The significand is rounded first and the product or
quotient again, so the result is the nearest number only where both are exact. -/
def floatOfParts (at_ : Cursor) (negative : Bool) (significand : Nat) (power : Int) :
    Reading Json :=
  let finish (x : Binary64) : Reading Json :=
    .ok (.number (.float (if negative then x.neg else x)), at_)
  let start := (Binary64.ofNat? significand).getD .zero
  let (x, power) := scaleDown 8 start power
  if x.isZero then finish x
  else if power > 308 then at_.fail .numberOutOfRange
  else
    match Binary64.ofDecimal? false 1 (Int.ofNat power.natAbs) with
    | none => at_.fail .numberOutOfRange
    | some scale =>
      match if power < 0 then x.div? scale else x.mul? scale with
      | none => at_.fail .numberOutOfRange
      | some y => finish y

/-- The digits of an exponent after the first; an exponent beyond 32 bits makes the number zero or
too large. -/
def readExponentDigits (negative : Bool) (significand : Nat) (start : Int) (upward : Bool) :
    (exponent : Nat) → (rest : List Char) → (offset : Nat) → Reading Json
  | exponent, [], offset => finish exponent ⟨[], offset⟩
  | exponent, c :: rest, offset =>
    if c.isDigit then
      let exponent := exponent * 10 + digitValue c
      if exponent > 0x7FFFFFFF then
        let next : Cursor := ⟨rest, offset + 1⟩
        if significand != 0 && upward then next.fail .numberOutOfRange
        else .ok (.number (.float ⟨negative, 0⟩), next.skipDigits)
      else readExponentDigits negative significand start upward exponent rest (offset + 1)
    else finish exponent ⟨c :: rest, offset⟩
where
  /-- The number with all parts read. -/
  finish (exponent : Nat) (at_ : Cursor) : Reading Json :=
    let power := if upward then start + exponent else start - exponent
    let power := max (min power 0x7FFFFFFF) (-0x80000000)
    floatOfParts at_ negative significand power

/-- An exponent; the cursor stands at its letter. -/
def readExponent (negative : Bool) (significand : Nat) (start : Int) (at_ : Cursor) :
    Reading Json :=
  let at_ : Cursor := ⟨at_.rest.drop 1, at_.offset + 1⟩
  let (upward, at_) :=
    match at_.rest with
    | '+' :: rest => (true, at_.after '+' rest)
    | '-' :: rest => (false, at_.after '-' rest)
    | _ => (true, at_)
  match at_.rest with
  | [] => at_.fail .endInValue
  | c :: rest =>
    if c.isDigit then
      readExponentDigits negative significand start upward (digitValue c) rest (at_.offset + 1)
    else at_.failAfterByte .invalidNumber

/-- What follows a fraction: an exponent or the end of the number. -/
def afterFraction (negative : Bool) (significand : Nat) (power : Int) (at_ : Cursor) :
    Reading Json :=
  match at_.rest with
  | 'e' :: _ | 'E' :: _ => readExponent negative significand power at_
  | _ => floatOfParts at_ negative significand power

/-- The digits of a fraction. Digits that the significand has no room for are skipped. -/
def readFractionDigits (negative : Bool) : (significand : Nat) → (power : Int) →
    (anyDigit : Bool) → (rest : List Char) → (offset : Nat) → Reading Json
  | significand, power, anyDigit, [], offset =>
    if anyDigit then afterFraction negative significand power ⟨[], offset⟩
    else Cursor.failHere ⟨[], offset⟩ .endInValue
  | significand, power, anyDigit, c :: rest, offset =>
    let here : Cursor := ⟨c :: rest, offset⟩
    if c.isDigit then
      let more := significand * 10 + digitValue c
      if more > maxUnsigned then afterFraction negative significand power here.skipDigits
      else readFractionDigits negative more (power - 1) true rest (offset + 1)
    else if anyDigit then afterFraction negative significand power here
    else here.failHere .invalidNumber

/-- What follows the integer part of a number that is not an integer. -/
def readFloat (negative : Bool) (significand : Nat) (power : Int) (at_ : Cursor) : Reading Json :=
  match at_.rest with
  | '.' :: rest => readFractionDigits negative significand power false rest (at_.offset + 1)
  | 'e' :: _ | 'E' :: _ => readExponent negative significand power at_
  | _ => floatOfParts at_ negative significand power

/-- What follows an integer part that fits: the rest of a floating point number, or the end of an
integer. A negative zero and negative integers below 64 bits are floating point numbers. -/
def afterInteger (negative : Bool) (significand : Nat) (at_ : Cursor) : Reading Json :=
  match at_.rest with
  | '.' :: _ | 'e' :: _ | 'E' :: _ => readFloat negative significand 0 at_
  | _ =>
    if !negative then .ok (.ofNat significand, at_)
    else if significand = 0 || significand > 0x8000000000000000 then
      let x := (Binary64.ofNat? significand).getD .zero
      .ok (.number (.float x.neg), at_)
    else .ok (.ofInt (-(Int.ofNat significand)), at_)

/-- The digits of an integer part after the first. Digits that the significand has no room for
count as powers of ten. -/
def readIntegerDigits (negative : Bool) : (significand : Nat) → (rest : List Char) →
    (offset : Nat) → Reading Json
  | significand, [], offset => afterInteger negative significand ⟨[], offset⟩
  | significand, c :: rest, offset =>
    let here : Cursor := ⟨c :: rest, offset⟩
    if c.isDigit then
      let more := significand * 10 + digitValue c
      if more > maxUnsigned then
        let past := here.skipDigits
        readFloat negative significand (Int.ofNat (past.offset - offset)) past
      else readIntegerDigits negative more rest (offset + 1)
    else afterInteger negative significand here

def readNumber (negative : Bool) (at_ : Cursor) : Reading Json :=
  match at_.rest with
  | [] => at_.fail .endInValue
  | c :: rest =>
    let next := at_.after c rest
    if c = '0' then
      match rest with
      | d :: _ => if d.isDigit then next.failHere .invalidNumber else afterInteger negative 0 next
      | [] => afterInteger negative 0 next
    else if c.isDigit then readIntegerDigits negative (digitValue c) rest next.offset
    else at_.failAfterByte .invalidNumber

def readHex (at_ : Cursor) : Reading Nat :=
  let bytes := (String.ofList (at_.rest.take 4)).utf8ByteSize
  if bytes < 4 then .error ⟨.endInString, at_.offset + bytes⟩
  else
    match at_.rest with
    | a :: b :: c :: d :: rest =>
      match hexValue? a, hexValue? b, hexValue? c, hexValue? d with
      | some a, some b, some c, some d =>
        .ok (((a * 16 + b) * 16 + c) * 16 + d, ⟨rest, at_.offset + 4⟩)
      | _, _, _, _ => .error ⟨.invalidEscape, at_.offset + 4⟩
    | _ => .error ⟨.invalidEscape, at_.offset + 4⟩

/-- Steps over the character that has to follow the first half of a surrogate pair. -/
def expectInPair (c : Char) (at_ : Cursor) : Except Stop Cursor :=
  match at_.rest with
  | [] => at_.fail .endInString
  | d :: rest =>
    if c = d then .ok (at_.after d rest) else at_.failAfterByte .unfinishedSurrogate

/-- The character of a numeric escape; the cursor stands after its letter. -/
def readUnicodeEscape (at_ : Cursor) : Reading Char :=
  match readHex at_ with
  | .error stop => .error stop
  | .ok (n, at_) =>
    if 0xDC00 ≤ n && n ≤ 0xDFFF then at_.fail .loneSurrogate
    else if n < 0xD800 || 0xDBFF < n then .ok (Char.ofNat n, at_)
    else
      match (expectInPair '\\' at_).bind fun at_ => (expectInPair 'u' at_).bind readHex with
      | .error stop => .error stop
      | .ok (low, at_) =>
        if low < 0xDC00 || 0xDFFF < low then at_.fail .loneSurrogate
        else .ok (Char.ofNat (0x10000 + (n - 0xD800) * 0x400 + (low - 0xDC00)), at_)

/-- The character of an escape; the cursor stands after the backslash. -/
def readEscape (at_ : Cursor) : Reading Char :=
  match at_.rest with
  | [] => at_.fail .endInString
  | c :: rest =>
    let next := at_.after c rest
    match c with
    | '"' | '\\' | '/' => .ok (c, next)
    | 'b' => .ok ('\x08', next)
    | 'f' => .ok ('\x0c', next)
    | 'n' => .ok ('\n', next)
    | 'r' => .ok ('\r', next)
    | 't' => .ok ('\t', next)
    | 'u' => readUnicodeEscape next
    | _ => at_.failAfterByte .invalidEscape

/-- The rest of a string after its opening quote; every step of fuel reads a character. -/
def readString : (fuel : Nat) → (collected : List Char) → Cursor → Reading String
  | 0, _, at_ => at_.fail .endInString
  | fuel + 1, collected, at_ =>
    match at_.rest with
    | [] => at_.fail .endInString
    | c :: rest =>
      let next := at_.after c rest
      if c = '"' then .ok (String.ofList collected.reverse, next)
      else if c = '\\' then
        match readEscape next with
        | .ok (c, next) => readString fuel (c :: collected) next
        | .error stop => .error stop
      else if c.toNat < 32 then next.fail .controlCharacter
      else readString fuel (c :: collected) next

mutual

/-- A value; `room` counts the brackets that may still be opened. -/
def readValue : (fuel room : Nat) → Cursor → Reading Json
  | 0, _, at_ => at_.fail .endInValue
  | fuel + 1, room, at_ =>
    let at_ := at_.skipSpace
    match at_.rest with
    | [] => at_.failHere .endInValue
    | c :: rest =>
      let next := at_.after c rest
      match c with
      | 'n' => readWord ['u', 'l', 'l'] .null next
      | 't' => readWord ['r', 'u', 'e'] (.boolean true) next
      | 'f' => readWord ['a', 'l', 's', 'e'] (.boolean false) next
      | '-' => readNumber true next
      | '"' =>
        match readString (rest.length + 1) [] next with
        | .ok (text, next) => .ok (.string text, next)
        | .error stop => .error stop
      | '[' => if room = 0 then at_.failHere .tooDeep else readItems fuel (room - 1) true [] next
      | '\x7b' =>
        if room = 0 then at_.failHere .tooDeep else readMembers fuel (room - 1) true [] next
      | _ => if c.isDigit then readNumber false at_ else at_.failHere .expectedValue

/-- The items of an array from the cursor on. -/
def readItems : (fuel room : Nat) → (first : Bool) → (collected : List Json) → Cursor →
    Reading Json
  | 0, _, _, _, at_ => at_.fail .endInList
  | fuel + 1, room, first, collected, at_ =>
    let at_ := at_.skipSpace
    let item (at_ : Cursor) : Reading Json :=
      match readValue fuel room at_ with
      | .ok (value, next) => readItems fuel room false (value :: collected) next
      | .error stop => .error stop
    match at_.rest with
    | [] => at_.failHere .endInList
    | ']' :: rest => .ok (.array collected.reverse, at_.after ']' rest)
    | c :: rest =>
      if first then item at_
      else if c = ',' then
        let next := (at_.after c rest).skipSpace
        match next.rest with
        | [] => next.failHere .endInValue
        | ']' :: _ => next.failHere .trailingComma
        | _ => item next
      else at_.failHere .expectedListSeparator

/-- The members of an object from the cursor on. -/
def readMembers : (fuel room : Nat) → (first : Bool) → (collected : List (String × Json)) →
    Cursor → Reading Json
  | 0, _, _, _, at_ => at_.fail .endInObject
  | fuel + 1, room, first, collected, at_ =>
    let at_ := at_.skipSpace
    let member (at_ : Cursor) : Reading Json :=
      match readString (at_.rest.length + 1) [] ⟨at_.rest.drop 1, at_.offset + 1⟩ with
      | .error stop => .error stop
      | .ok (key, next) =>
        let next := next.skipSpace
        match next.rest with
        | [] => next.failHere .endInObject
        | ':' :: rest =>
          match readValue fuel room (next.after ':' rest) with
          | .ok (value, next) => readMembers fuel room false ((key, value) :: collected) next
          | .error stop => .error stop
        | _ => next.failHere .expectedColon
    match at_.rest with
    | [] => at_.failHere .endInObject
    | '\x7d' :: rest => .ok (mkObject collected.reverse, at_.after '\x7d' rest)
    | c :: rest =>
      if first then if c = '"' then member at_ else at_.failHere .keyNotString
      else if c = ',' then
        let next := (at_.after c rest).skipSpace
        match next.rest with
        | [] => next.failHere .endInValue
        | '"' :: _ => member next
        | '\x7d' :: _ => next.failHere .trailingComma
        | _ => next.failHere .keyNotString
      else at_.failHere .expectedObjectSeparator

end

/-- The place of a byte offset: the line, and the bytes since the start of that line. -/
def place (text : List Char) (offset : Nat) : Nat × Nat :=
  go text offset 1 0
where
  /-- Walks over the characters before the offset. -/
  go : List Char → (left line column : Nat) → Nat × Nat
    | [], left, line, column => (line, column + left)
    | c :: rest, left, line, column =>
      if left < c.utf8Size then (line, column + left)
      else if c = '\n' then go rest (left - 1) (line + 1) 0
      else go rest (left - c.utf8Size) line (column + c.utf8Size)

/-- How many brackets may be open at once. -/
def maxDepth : Nat := 127

/-- The value of a JSON text. -/
def parse (text : String) : Except SyntaxError Json :=
  let chars := text.toList
  let outcome : Except Stop Json :=
    match readValue (2 * chars.length + 2) maxDepth ⟨chars, 0⟩ with
    | .error stop => .error stop
    | .ok (value, at_) =>
      let at_ := at_.skipSpace
      if at_.rest.isEmpty then .ok value else at_.failHere .trailingCharacters
  match outcome with
  | .ok value => .ok value
  | .error stop =>
    let (line, column) := place chars stop.offset
    .error ⟨stop.fault, line, column⟩

end SpecLint.Json
