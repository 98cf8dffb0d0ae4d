import SpecLint.Yaml.Scalar.Block
import SpecLint.Yaml.Scalar.Plain
import SpecLint.Yaml.Tag

/-!
The tokens of a YAML text. A key is recognised only at the colon after it, so its token is put in
afterwards, at the place where the key starts; and blocks, which are marked by indentation alone, get
tokens for their starts and ends.
-/

namespace SpecLint.Yaml

inductive Token where
  | directive (directive : Directive)
  | documentStart
  | documentEnd
  | blockSequenceStart
  | blockMappingStart
  | blockEnd
  | flowSequenceStart
  | flowSequenceEnd
  | flowMappingStart
  | flowMappingEnd
  | blockEntry
  | flowEntry
  | key
  | value
  | alias (name : String)
  | anchor (name : String)
  | tag (tag : WrittenTag)
  | scalar (text : String) (plain : Bool)
  | streamEnd
deriving Repr

/-- A place where a key may have started. -/
structure KeyCandidate where
  /-- Whether a mapping has to go on there. -/
  required : Bool
  /-- The number of tokens before it. -/
  position : Nat
  index : Nat
  line : Nat
  column : Nat

/-- The tokens read so far and what the next ones depend on. -/
structure Scanner where
  here : Cursor
  tokens : Array Token
  /-- The indentation of the innermost block, and of the blocks around it. -/
  indent : Int
  indents : List Int
  /-- The candidate of the innermost bracket, and of the brackets around it. -/
  candidate : Option KeyCandidate
  candidates : List (Option KeyCandidate)
  /-- Whether a key may start at the cursor. -/
  keyAllowed : Bool

namespace Scanner

/-- The scanner at the start of a text. -/
def start (text : List Char) : Scanner :=
  { here := .start text, tokens := #[], indent := -1, indents := [], candidate := none,
    candidates := [], keyAllowed := true }

/-- Whether the cursor is inside brackets. -/
def inFlow (s : Scanner) : Bool := !s.candidates.isEmpty

def push (s : Scanner) (token : Token) : Scanner :=
  { s with tokens := s.tokens.push token }

/-- Inserts a token before the token at a position. -/
def insertAt (s : Scanner) (position : Nat) (token : Token) : Scanner :=
  { s with tokens := s.tokens.insertIdxIfInBounds position token }

/-- Ends blocks that are indented further than a column. -/
def unroll (s : Scanner) (column : Int) : Scanner :=
  if s.inFlow then s else go s.indents s
where
  /-- Ends the blocks of a list of indentations from the inside. -/
  go : List Int → Scanner → Scanner
    | outer :: rest, s =>
      if column < s.indent then
        go rest { s.push .blockEnd with indent := outer, indents := rest }
      else s
    | [], s => s

/-- Starts a block at a column that is indented further than the block around it; the token goes
before the token at `position`, or at the end. -/
def roll (s : Scanner) (column : Nat) (position : Option Nat) (token : Token) : Scanner :=
  if s.inFlow then s
  else if s.indent < column then
    let s := { s with indents := s.indent :: s.indents, indent := column }
    match position with
    | some position => s.insertAt position token
    | none => s.push token
  else s

/-- Gives up a candidate that is on an earlier line or too far back. -/
def expire (s : Scanner) : Option KeyCandidate → Except Fault (Option KeyCandidate)
  | none => .ok none
  | some key =>
    if key.line < s.here.line || key.index + 1024 < s.here.index then
      if key.required then .error .keyWithoutValue else .ok none
    else .ok (some key)

/-- Gives up all candidates that no colon can reach any more. -/
def expireAll (s : Scanner) : Except Fault Scanner := do
  let candidates ← s.candidates.mapM s.expire
  let candidate ← s.expire s.candidate
  return { s with candidate, candidates }

/-- Gives up the candidate of the innermost bracket. -/
def dropCandidate (s : Scanner) : Except Fault Scanner :=
  if s.candidate.any KeyCandidate.required then .error .keyWithoutValue
  else .ok { s with candidate := none }

/-- Notes that a key may start at the cursor. -/
def noteCandidate (s : Scanner) : Except Fault Scanner :=
  if s.keyAllowed then do
    let required := !s.inFlow && s.indent == Int.ofNat s.here.column
    let key : KeyCandidate :=
      ⟨required, s.tokens.size, s.here.index, s.here.line, s.here.column⟩
    return { ← s.dropCandidate with candidate := some key }
  else .ok s

/-- Steps over blanks, comments and line ends; every round is one line. -/
def skipToToken (fuel : Nat) (s : Scanner) : Scanner :=
  match fuel with
  | 0 => s
  | fuel + 1 =>
    let here := s.here
    let here :=
      if here.index = 0 && here.rest.head? == some '\ufeff' then here.skip else here
    let here := here.skipWhile fun c => c = ' ' || ((s.inFlow || !s.keyAllowed) && c = '\t')
    let here := if here.rest.head? == some '#' then here.skipToBreak else here
    match here.rest with
    | c :: _ =>
      if isBreak c then
        skipToToken fuel { s with here := here.skipBreak, keyAllowed := !s.inFlow || s.keyAllowed }
      else { s with here }
    | [] => { s with here }

/-- Ends all blocks before a directive or a marker of documents. -/
def closeBlocks (s : Scanner) : Except Fault Scanner := do
  let s ← (s.unroll (-1)).dropCandidate
  return { s with keyAllowed := false }

def fetchStreamEnd (s : Scanner) : Except Fault Scanner := do
  let s ← s.closeBlocks
  return s.push .streamEnd

/-- A directive and the rest of its line. -/
def fetchDirective (s : Scanner) : Except Fault Scanner := do
  let s ← s.closeBlocks
  let (directive, here) ← scanDirective s.here
  let here ← scanLineEnd here
  return { s.push (.directive directive) with here }

def fetchMarker (s : Scanner) (token : Token) : Except Fault Scanner := do
  let s ← s.closeBlocks
  return { s.push token with here := s.here.skipMany 3 }

def fetchFlowStart (s : Scanner) (token : Token) : Except Fault Scanner := do
  let s ← s.noteCandidate
  return { s.push token with
    candidates := s.candidate :: s.candidates, candidate := none, keyAllowed := true,
    here := s.here.skip }

def fetchFlowEnd (s : Scanner) (token : Token) : Except Fault Scanner := do
  let s ← s.dropCandidate
  let s :=
    match s.candidates with
    | [] => s
    | candidate :: candidates => { s with candidate, candidates }
  return { s.push token with keyAllowed := false, here := s.here.skip }

def fetchFlowEntry (s : Scanner) : Except Fault Scanner := do
  let s ← s.dropCandidate
  return { s.push .flowEntry with keyAllowed := true, here := s.here.skip }

/-- The dash of a sequence entry. -/
def fetchBlockEntry (s : Scanner) : Except Fault Scanner := do
  if !s.inFlow && !s.keyAllowed then throw .blockEntry
  let s ← (s.roll s.here.column none .blockSequenceStart).dropCandidate
  return { s.push .blockEntry with keyAllowed := true, here := s.here.skip }

/-- The question mark of a key. -/
def fetchKey (s : Scanner) : Except Fault Scanner := do
  if !s.inFlow && !s.keyAllowed then throw .keyContext
  let s ← (s.roll s.here.column none .blockMappingStart).dropCandidate
  return { s.push .key with keyAllowed := !s.inFlow, here := s.here.skip }

/-- The colon of a value, before which a key may have to be put in. -/
def fetchValue (s : Scanner) : Except Fault Scanner :=
  match s.candidate with
  | some key =>
    let s := s.insertAt key.position .key
    let s := s.roll key.column (some key.position) .blockMappingStart
    .ok { s.push .value with candidate := none, keyAllowed := false, here := s.here.skip }
  | none => do
    if !s.inFlow && !s.keyAllowed then throw .valueContext
    let s := s.roll s.here.column none .blockMappingStart
    return { s.push .value with keyAllowed := !s.inFlow, here := s.here.skip }

/-- A token that may be or start a key. -/
def fetchNodePart {α : Type} (s : Scanner) (scan : Cursor → Scan α) (token : α → Token) :
    Except Fault Scanner := do
  let s ← s.noteCandidate
  let (part, here) ← scan s.here
  return { s.push (token part) with keyAllowed := false, here }

def fetchBlockText (s : Scanner) (literal : Bool) : Except Fault Scanner := do
  let s ← s.dropCandidate
  let (text, here) ← scanBlock literal s.indent s.here
  return { s.push (.scalar text false) with keyAllowed := true, here }

def fetchPlain (s : Scanner) : Except Fault Scanner := do
  let s ← s.noteCandidate
  let (plain, here) ← scanPlain s.inFlow s.indent s.here
  return { s.push (.scalar plain.text true) with keyAllowed := plain.broken, here }

/-- Whether a plain text may start with a character, given the text after it. -/
def startsPlain (inFlow : Bool) (c : Char) (rest : List Char) : Bool :=
  let indicators := "-?:,[]\x7b\x7d#&*!|>'\"%@`".toList
  !(isSpace c || isBreak c || indicators.contains c) ||
    (c = '-' && !rest.head?.any isSpace) ||
    (!inFlow && (c = '?' || c = ':') && !endsWord rest)

/-- The tokens at the cursor, which stands at a token's first character. -/
def fetchAt (s : Scanner) (c : Char) (rest : List Char) : Except Fault Scanner :=
  let blockMark := !s.inFlow
  if s.here.column = 0 && c = '%' then s.fetchDirective
  else if s.here.atMarker '-' then s.fetchMarker .documentStart
  else if s.here.atMarker '.' then s.fetchMarker .documentEnd
  else if c = '[' then s.fetchFlowStart .flowSequenceStart
  else if c = '\x7b' then s.fetchFlowStart .flowMappingStart
  else if c = ']' then s.fetchFlowEnd .flowSequenceEnd
  else if c = '\x7d' then s.fetchFlowEnd .flowMappingEnd
  else if c = ',' then s.fetchFlowEntry
  else if c = '-' && endsWord rest then s.fetchBlockEntry
  else if c = '?' && (s.inFlow || endsWord rest) then s.fetchKey
  else if c = ':' && (s.inFlow || endsWord rest) then s.fetchValue
  else if c = '*' then s.fetchNodePart scanAnchor .alias
  else if c = '&' then s.fetchNodePart scanAnchor .anchor
  else if c = '!' then s.fetchNodePart (scanTag s.inFlow) .tag
  else if c = '|' && blockMark then s.fetchBlockText true
  else if c = '>' && blockMark then s.fetchBlockText false
  else if c = '\'' then s.fetchNodePart (scanQuoted false) fun text => .scalar text false
  else if c = '"' then s.fetchNodePart (scanQuoted true) fun text => .scalar text false
  else if startsPlain s.inFlow c rest then s.fetchPlain
  else .error .character

/-- The next tokens, up to the end of the text; every round reads a character. -/
def fetchAll : (fuel : Nat) → Scanner → Except Fault (Array Token)
  | 0, s => .ok s.tokens
  | fuel + 1, s =>
    let s := s.skipToToken (s.here.rest.length + 1)
    match s.expireAll with
    | .error fault => .error fault
    | .ok s =>
      let s := s.unroll s.here.column
      match s.here.rest with
      | [] => s.fetchStreamEnd.map Scanner.tokens
      | c :: rest =>
        match s.fetchAt c rest with
        | .error fault => .error fault
        | .ok s => fetchAll fuel s

end Scanner

def tokens (text : String) : Except Fault (Array Token) :=
  if text.toList.all isAllowed then
    let text := uniformLines text.toList
    Scanner.fetchAll (text.length + 1) (.start text)
  else .error .character

end SpecLint.Yaml
