import SpecLint.Yaml.Cursor

/-!
Block texts, whose lines are indented below a header. A literal text keeps its line ends; in a folded
one lines that are not indented further are joined. The header may fix the indentation and whether
the line ends at the end are kept.
-/

namespace SpecLint.Yaml

/-- What happens to the line ends at the end of a block text. -/
inductive Chomping where
  | strip
  | clip
  | keep
deriving DecidableEq, Repr

/-- The header of a block text. -/
structure BlockHeader where
  chomping : Chomping
  /-- The indentation against the block around it, if it is given. -/
  increment : Option Nat

def chomping? : List Char → Option Chomping
  | '+' :: _ => some .keep
  | '-' :: _ => some .strip
  | _ => none

/-- An indicator of indentation; zero is none. -/
def increment? : List Char → Option Nat
  | c :: _ => if c.isDigit then some (c.toNat - '0'.toNat) else none
  | [] => none

/-- The two indicators of a header, in either order. -/
def scanIndicators (here : Cursor) : Scan BlockHeader :=
  let header (chomping : Option Chomping) (increment : Option Nat) (here : Cursor) :
      Scan BlockHeader :=
    if increment == some 0 then .error .blockHeader
    else .ok (⟨chomping.getD .clip, increment⟩, here)
  match chomping? here.rest with
  | some chomping =>
    let here := here.skip
    match increment? here.rest with
    | some n => header (some chomping) (some n) here.skip
    | none => header (some chomping) none here
  | none =>
    match increment? here.rest with
    | some n =>
      let here := here.skip
      match chomping? here.rest with
      | some chomping => header (some chomping) (some n) here.skip
      | none => header none (some n) here
    | none => header none none here

/-- Steps over blanks and a comment to the end of the line. -/
def scanLineEnd (here : Cursor) : Except Fault Cursor :=
  let here := here.skipWhile isSpace
  let here := if here.rest.head? == some '#' then here.skipToBreak else here
  match here.rest with
  | [] => .ok here
  | c :: _ => if isBreak c then .ok here.skipBreak else .error .comment

/-- The indentation and the empty lines before a line of the text; `indent` is zero as long as the
indentation is not known, and `deepest` the deepest column seen. -/
def scanBlockBreaks (indent : Nat) : (fuel : Nat) → (breaks : List Char) → (deepest : Nat) →
    Cursor → Scan (List Char × Nat)
  | 0, breaks, deepest, here => .ok ((breaks, deepest), here)
  | fuel + 1, breaks, deepest, here =>
    let spaces := (here.rest.takeWhile (· = ' ')).length
    let here := here.skipMany (if indent = 0 then spaces else min spaces (indent - here.column))
    let deepest := max deepest here.column
    match here.rest with
    | [] => .ok ((breaks, deepest), here)
    | c :: _ =>
      if (indent = 0 || here.column < indent) && c = '\t' then .error .indentation
      else if isBreak c then scanBlockBreaks indent fuel (breaks ++ [c]) deepest here.skipBreak
      else .ok ((breaks, deepest), here)

/-- What has been read of a block text. -/
structure BlockText where
  /-- The text without the line ends at its end, in reverse. -/
  collected : List Char
  /-- The end of the last line. -/
  lastBreak : List Char
  /-- The empty lines after it. -/
  emptyLines : List Char
  /-- Whether the last line starts with a blank. -/
  indented : Bool

/-- The line ends before the next line as they count in the text. -/
def BlockText.gap (text : BlockText) (literal blankNext : Bool) : List Char :=
  if !literal && text.lastBreak == ['\n'] && !text.indented && !blankNext then
    if text.emptyLines.isEmpty then [' '] else text.emptyLines
  else text.lastBreak ++ text.emptyLines

/-- The lines of a block text; every round reads a line. -/
def scanBlockLines (literal : Bool) (indent : Nat) : (fuel : Nat) → BlockText → Cursor →
    Scan BlockText
  | 0, text, here => .ok (text, here)
  | fuel + 1, text, here =>
    match here.rest with
    | [] => .ok (text, here)
    | c :: _ =>
      if here.column != indent then .ok (text, here)
      else
        let (line, next) := here.takeWhile fun c => !isBreak c
        let collected := line.reverse ++ (text.gap literal (isSpace c)).reverse ++ text.collected
        let lastBreak := next.rest.take 1
        let next := if lastBreak.isEmpty then next else next.skipBreak
        match scanBlockBreaks indent (next.rest.length + 1) [] 0 next with
        | .error fault => .error fault
        | .ok ((emptyLines, _), next) =>
          scanBlockLines literal indent fuel ⟨collected, lastBreak, emptyLines, isSpace c⟩ next

/-- A block text inside a block that is indented by `parent`; the cursor stands at the indicator of
its style. -/
def scanBlock (literal : Bool) (parent : Int) (here : Cursor) : Scan String :=
  match scanIndicators here.skip with
  | .error fault => .error fault
  | .ok (header, here) =>
    match scanLineEnd here with
    | .error fault => .error fault
    | .ok here =>
      let given := header.increment.map fun n => (max parent 0).toNat + n
      match scanBlockBreaks (given.getD 0) (here.rest.length + 1) [] 0 here with
      | .error fault => .error fault
      | .ok ((breaks, deepest), here) =>
        let indent := given.getD (max deepest (max (parent + 1) 1).toNat)
        match scanBlockLines literal indent (here.rest.length + 1) ⟨[], [], breaks, false⟩ here with
        | .error fault => .error fault
        | .ok (text, here) =>
          let tail :=
            match header.chomping with
            | .strip => []
            | .clip => text.lastBreak
            | .keep => text.lastBreak ++ text.emptyLines
          .ok (String.ofList (text.collected.reverse ++ tail), here)

end SpecLint.Yaml
