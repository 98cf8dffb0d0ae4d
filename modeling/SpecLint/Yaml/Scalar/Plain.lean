import SpecLint.Yaml.Scalar.Quoted

/-!
Plain texts, which stand without quotes. They end before a colon with a blank, before a comment, in
brackets before a comma or a bracket, and else where a line is indented less than the text.
-/

namespace SpecLint.Yaml

/-- Whether a character separates values inside brackets. -/
def isFlowMark (c : Char) : Bool :=
  c = ',' || c = '[' || c = ']' || c = '\x7b' || c = '\x7d'

/-- The characters up to a blank, a line end or the end of the text, in reverse. -/
def scanPlainWord (inFlow : Bool) : (rest : List Char) → (collected : List Char) → Cursor →
    Scan (List Char)
  | [], collected, here => .ok (collected, here)
  | c :: rest, collected, here =>
    if isSpace c || isBreak c then .ok (collected, here)
    else if inFlow && c = ':' && rest.head?.any (fun d => isFlowMark d || d = '?') then
      .error .plainColon
    else if (c = ':' && endsWord rest) || (inFlow && isFlowMark c) then .ok (collected, here)
    else scanPlainWord inFlow rest (c :: collected) here.skip

/-- The gap at the cursor. A tab may not stand before the indentation of the text. -/
def scanPlainGap (indent : Int) : (fuel : Nat) → Gap → Cursor → Scan Gap
  | 0, gap, here => .ok (gap, here)
  | fuel + 1, gap, here =>
    match here.rest with
    | [] => .ok (gap, here)
    | c :: _ =>
      if isSpace c then
        if gap.broken && here.column < indent && c = '\t' then .error .indentation
        else
          let gap := if gap.broken then gap else { gap with blanks := gap.blanks ++ [c] }
          scanPlainGap indent fuel gap here.skip
      else if isBreak c then
        scanPlainGap indent fuel { gap with broken := true, breaks := gap.breaks ++ [c] }
          here.skipBreak
      else .ok (gap, here)

/-- A plain text that has been read. -/
structure PlainText where
  text : String
  /-- Whether line ends follow the text, so that a key may follow. -/
  broken : Bool

/-- The rest of a plain text, of which a part and the gap after it were read; every round reads a
word and a gap. -/
def scanPlainRest (inFlow : Bool) (indent : Int) : (fuel : Nat) → (collected : List Char) → Gap →
    Cursor → Scan PlainText
  | 0, collected, gap, here => .ok (⟨String.ofList collected.reverse, gap.broken⟩, here)
  | fuel + 1, collected, gap, here =>
    let finish (collected : List Char) (gap : Gap) (here : Cursor) : Scan PlainText :=
      .ok (⟨String.ofList collected.reverse, gap.broken⟩, here)
    if here.atDocumentMarker || here.rest.head? == some '#' then finish collected gap here
    else
      match scanPlainWord inFlow here.rest [] here with
      | .error fault => .error fault
      | .ok (word, next) =>
        let wordIsEmpty := word.isEmpty
        let collected :=
          if wordIsEmpty then collected else word ++ (gap.text false).reverse ++ collected
        let gap := if wordIsEmpty then gap else ⟨[], false, []⟩
        match next.rest.head? with
        | none => finish collected gap next
        | some c =>
          if !(isSpace c || isBreak c) then finish collected gap next
          else
            match scanPlainGap indent (next.rest.length + 1) gap next with
            | .error fault => .error fault
            | .ok (gap, next) =>
              if !inFlow && (next.column : Int) < indent then finish collected gap next
              else scanPlainRest inFlow indent fuel collected gap next

/-- A plain text inside a block that is indented by `indent`; the cursor stands at its first
character. -/
def scanPlain (inFlow : Bool) (indent : Int) (here : Cursor) : Scan PlainText :=
  scanPlainRest inFlow (indent + 1) (here.rest.length + 1) [] ⟨[], false, []⟩ here

end SpecLint.Yaml
