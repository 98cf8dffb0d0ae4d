import SpecLint.Yaml.Cursor

/-!
Texts in single or double quotes. Lines are folded; in double quotes there are escapes, and a
backslash at the end of a line joins it to the next without a space.
-/

namespace SpecLint.Yaml

/-- What an escape of one character stands for, or the number of digits that follow it. -/
inductive Escape where
  | char (c : Char)
  | digits (count : Nat)

/-- The meaning of the character after a backslash. -/
def escapeOf? : Char → Option Escape
  | '0' => some (.char '\x00')
  | 'a' => some (.char '\x07')
  | 'b' => some (.char '\x08')
  | 't' | '\t' => some (.char '\t')
  | 'n' => some (.char '\n')
  | 'v' => some (.char '\x0b')
  | 'f' => some (.char '\x0c')
  | 'r' => some (.char '\r')
  | 'e' => some (.char '\x1b')
  | ' ' => some (.char ' ')
  | '"' => some (.char '"')
  | '/' => some (.char '/')
  | '\\' => some (.char '\\')
  | 'N' => some (.char '\u0085')
  | '_' => some (.char '\u00a0')
  | 'L' => some (.char '\u2028')
  | 'P' => some (.char '\u2029')
  | 'x' => some (.digits 2)
  | 'u' => some (.digits 4)
  | 'U' => some (.digits 8)
  | _ => none

/-- The value of a hexadecimal digit. -/
def hexDigit? (c : Char) : Option Nat :=
  if c.isDigit then some (c.toNat - '0'.toNat)
  else if 'a' ≤ c ∧ c ≤ 'f' then some (c.toNat - 'a'.toNat + 10)
  else if 'A' ≤ c ∧ c ≤ 'F' then some (c.toNat - 'A'.toNat + 10)
  else none

/-- The number that exactly `count` hexadecimal digits denote. -/
def hexNumber? (count : Nat) (digits : List Char) : Option Nat :=
  if (digits.take count).length < count then none
  else
    (digits.take count).foldl
      (fun value c => value.bind fun v => (hexDigit? c).map (v * 16 + ·)) (some 0)

/-- The character that an escape denotes; the cursor stands at the backslash. -/
def scanEscape (here : Cursor) : Scan Char :=
  match here.rest with
  | _ :: c :: digits =>
    match escapeOf? c with
    | none => .error .escape
    | some (.char c) => .ok (c, here.skipMany 2)
    | some (.digits count) =>
      match hexNumber? count digits with
      | none => .error .escape
      | some n =>
        if (0xD800 ≤ n && n ≤ 0xDFFF) || n > 0x10FFFF then .error .escape
        else .ok (Char.ofNat n, here.skipMany (count + 2))
  | _ => .error .escape

/-- The characters up to a blank, a line end or the closing quote, in reverse, and whether a
backslash at the end of the line stopped them. -/
def scanQuotedWord (double : Bool) : (fuel : Nat) → (collected : List Char) → Cursor →
    Scan (List Char × Bool)
  | 0, collected, here => .ok ((collected, false), here)
  | fuel + 1, collected, here =>
    match here.rest with
    | [] => .ok ((collected, false), here)
    | c :: rest =>
      if isSpace c || isBreak c then .ok ((collected, false), here)
      else if !double && c = '\'' && rest.head? == some '\'' then
        scanQuotedWord double fuel (c :: collected) (here.skipMany 2)
      else if c = (if double then '"' else '\'') then .ok ((collected, false), here)
      else if double && c = '\\' then
        if rest.head?.any isBreak then .ok ((collected, true), here.skip.skipBreak)
        else
          match scanEscape here with
          | .error fault => .error fault
          | .ok (c, next) => scanQuotedWord double fuel (c :: collected) next
      else scanQuotedWord double fuel (c :: collected) here.skip

/-- Blanks and line ends between two parts of a text. -/
structure Gap where
  /-- The blanks before any line end. -/
  blanks : List Char
  /-- Whether there is a line end, or a joined line. -/
  broken : Bool
  /-- The line ends. -/
  breaks : List Char
deriving Inhabited

/-- The gap at the cursor; `joined` says that a line was joined just before. -/
def scanGap (joined : Bool) : (fuel : Nat) → Gap → Cursor → Gap × Cursor
  | 0, gap, here => (gap, here)
  | fuel + 1, gap, here =>
    match here.rest with
    | [] => (gap, here)
    | c :: _ =>
      if isSpace c then
        let gap := if gap.broken then gap else { gap with blanks := gap.blanks ++ [c] }
        scanGap joined fuel gap here.skip
      else if isBreak c then
        scanGap joined fuel { gap with broken := true, breaks := gap.breaks ++ [c] } here.skipBreak
      else (gap, here)

/-- The text that a gap stands for. After a joined line all line ends count. -/
def Gap.text (gap : Gap) (joined : Bool) : List Char :=
  if !gap.broken then gap.blanks
  else if joined then gap.breaks
  else foldBreaks gap.breaks

/-- The text up to the closing quote, in reverse; every round reads a word and a gap. -/
def scanQuotedRest (double : Bool) : (fuel : Nat) → (collected : List Char) → Cursor → Scan String
  | 0, _, _ => .error .unfinishedText
  | fuel + 1, collected, here =>
    if here.atDocumentMarker then .error .unfinishedText
    else if here.rest.isEmpty then .error .unfinishedText
    else
      match scanQuotedWord double (here.rest.length + 1) collected here with
      | .error fault => .error fault
      | .ok ((collected, joined), here) =>
        if here.rest.head? == some (if double then '"' else '\'') then
          .ok (String.ofList collected.reverse, here.skip)
        else
          let (gap, here) := scanGap joined (here.rest.length + 1) ⟨[], joined, []⟩ here
          scanQuotedRest double fuel ((gap.text joined).reverse ++ collected) here

/-- A quoted text; the cursor stands at the opening quote. -/
def scanQuoted (double : Bool) (here : Cursor) : Scan String :=
  scanQuotedRest double (here.rest.length + 1) [] here.skip

end SpecLint.Yaml
