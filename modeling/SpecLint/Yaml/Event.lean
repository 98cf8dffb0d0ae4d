import SpecLint.Yaml.Token

/-!
The events of a YAML text: the starts, ends and texts of its nodes, in order. The tokens are read by
a machine whose stack holds what is expected after the node at hand.
-/

namespace SpecLint.Yaml

/-- The properties of a node: its anchor and its tag. -/
structure Properties where
  anchor : Option String
  tag : Option String
deriving DecidableEq, Repr, Inhabited

inductive Event where
  | documentStart
  | documentEnd
  | alias (name : String)
  | scalar (properties : Properties) (text : String) (plain : Bool)
  | sequenceStart (properties : Properties)
  | sequenceEnd
  | mappingStart (properties : Properties)
  | mappingEnd
deriving Repr

/-- What the machine expects. -/
inductive Expectation where
  | document (first : Bool)
  | documentContent
  | documentEnd
  | node (block indentless : Bool)
  | blockEntry
  | indentlessEntry
  | blockKey
  | blockValue
  | flowEntry (first : Bool)
  | pairKey
  | pairValue
  | pairEnd
  | flowKey (first : Bool)
  | flowValue
  | flowNoValue
deriving DecidableEq, Repr

/-- The machine: the tokens that are left, what is expected next and after that, the prefixes of
handles, and the events so far, the last one first. -/
structure Machine where
  tokens : List Token
  next : Expectation
  stack : List Expectation
  handles : List (String × String)
  events : List Event

namespace Machine

/-- The machine before the first token. -/
def start (tokens : List Token) : Machine := ⟨tokens, .document true, [], [], []⟩

def emit (m : Machine) (event : Event) : Machine := { m with events := event :: m.events }

/-- Adds an empty text without properties. -/
def emitEmpty (m : Machine) : Machine := m.emit (.scalar ⟨none, none⟩ "" true)

def skip (m : Machine) : Machine := { m with tokens := m.tokens.drop 1 }

def expect (m : Machine) (next : Expectation) : Machine := { m with next }

def pop (m : Machine) : Machine :=
  match m.stack with
  | [] => m
  | next :: stack => { m with next, stack }

/-- Expects a node, and something after it. -/
def nodeThen (m : Machine) (block indentless : Bool) (later : Expectation) : Machine :=
  { m with next := .node block indentless, stack := later :: m.stack }

/-- The prefixes of the handles that every document knows. -/
def commonHandles : List (String × String) := [("!", "!"), ("!!", "tag:yaml.org,2002:")]

/-- The directives before a document; each handle and the version may be given once. -/
def readDirectives : (versioned : Bool) → (handles : List (String × String)) → List Token →
    Except Fault (List (String × String) × List Token)
  | versioned, handles, .directive (.version major minor) :: rest =>
    if versioned || major != 1 || (minor != 1 && minor != 2) then .error .directive
    else readDirectives true handles rest
  | versioned, handles, .directive (.tag handle start) :: rest =>
    if (handles.lookup handle).isSome then .error .directive
    else readDirectives versioned ((handle, start) :: handles) rest
  | _, handles, rest => .ok (handles, rest)

/-- The full text of a tag. -/
def resolveTag (m : Machine) (tag : WrittenTag) : Except Fault String :=
  if tag.handle = "" then .ok tag.suffix
  else
    match (m.handles ++ commonHandles).lookup tag.handle with
    | some start => .ok (start ++ tag.suffix)
    | none => .error .unknownTagHandle

/-- The anchor and the tag before a node, in either order. -/
def readProperties (m : Machine) : Except Fault (Properties × Machine) :=
  match m.tokens with
  | .anchor name :: .tag tag :: rest | .tag tag :: .anchor name :: rest =>
    (m.resolveTag tag).map fun tag => (⟨some name, some tag⟩, { m with tokens := rest })
  | .anchor name :: rest => .ok (⟨some name, none⟩, { m with tokens := rest })
  | .tag tag :: rest =>
    (m.resolveTag tag).map fun tag => (⟨none, some tag⟩, { m with tokens := rest })
  | _ => .ok (⟨none, none⟩, m)

/-- A node. A text whose tag is a lone exclamation mark has no tag; only a node with properties may
be left out. -/
def readNode (m : Machine) (block indentless : Bool) : Except Fault Machine :=
  match m.tokens with
  | .alias name :: _ => .ok (m.skip.pop.emit (.alias name))
  | _ =>
    match m.readProperties with
    | .error fault => .error fault
    | .ok (properties, m) =>
      match m.tokens with
      | .blockEntry :: _ =>
        if indentless then .ok ((m.expect .indentlessEntry).emit (.sequenceStart properties))
        else leftOut properties m
      | .scalar text plain :: _ =>
        let tag := if properties.tag == some "!" then none else properties.tag
        .ok (m.skip.pop.emit (.scalar { properties with tag } text plain))
      | .flowSequenceStart :: _ =>
        .ok ((m.skip.expect (.flowEntry true)).emit (.sequenceStart properties))
      | .flowMappingStart :: _ =>
        .ok ((m.skip.expect (.flowKey true)).emit (.mappingStart properties))
      | .blockSequenceStart :: _ =>
        if block then .ok ((m.skip.expect .blockEntry).emit (.sequenceStart properties))
        else leftOut properties m
      | .blockMappingStart :: _ =>
        if block then .ok ((m.skip.expect .blockKey).emit (.mappingStart properties))
        else leftOut properties m
      | _ => leftOut properties m
where
  /-- The event of a node that is left out. -/
  leftOut (properties : Properties) (m : Machine) : Except Fault Machine :=
    if properties == ⟨none, none⟩ then .error .nodeContent
    else .ok (m.pop.emit (.scalar properties "" true))

/-- A document or the end of the text, which yields no further machine. -/
def readDocument (m : Machine) (first : Bool) : Except Fault (Option Machine) :=
  let tokens :=
    if first then m.tokens
    else m.tokens.dropWhile fun token => match token with | .documentEnd => true | _ => false
  let m := { m with tokens }
  match tokens with
  | .streamEnd :: _ | [] => .ok none
  | token :: _ =>
    let explicit :=
      match token with
      | .directive _ | .documentStart => true
      | _ => false
    if first && !explicit then
      .ok (some ((m.nodeThen true false .documentEnd).emit .documentStart))
    else
      match readDirectives false [] tokens with
      | .error fault => .error fault
      | .ok (handles, .documentStart :: rest) =>
        let m := { m with handles, tokens := rest, stack := .documentEnd :: m.stack }
        .ok (some ((m.expect .documentContent).emit .documentStart))
      | .ok _ => .error .documentStart

/-- An entry between square brackets, which may be a single pair. -/
def readFlowEntry (m : Machine) : Machine :=
  match m.tokens with
  | .key :: _ => (m.skip.expect .pairKey).emit (.mappingStart ⟨none, none⟩)
  | .flowSequenceEnd :: _ => m.skip.pop.emit .sequenceEnd
  | _ => m.nodeThen false false (.flowEntry false)

/-- A key between curly brackets, which may stand alone. -/
def readFlowKey (m : Machine) : Machine :=
  match m.tokens with
  | .key :: rest =>
    match rest with
    | .value :: _ | .flowEntry :: _ | .flowMappingEnd :: _ => (m.skip.expect .flowValue).emitEmpty
    | _ => m.skip.nodeThen false false .flowValue
  | .flowMappingEnd :: _ => m.skip.pop.emit .mappingEnd
  | _ => m.nodeThen false false .flowNoValue

/-- One step: reads what is expected. No machine is left at the end of the text. -/
def step (m : Machine) : Except Fault (Option Machine) :=
  let more (m : Machine) : Except Fault (Option Machine) := .ok (some m)
  match m.next, m.tokens with
  | .document first, _ => m.readDocument first
  | .documentContent, .directive _ :: _ | .documentContent, .documentStart :: _
  | .documentContent, .documentEnd :: _ | .documentContent, .streamEnd :: _ =>
    more m.pop.emitEmpty
  | .documentContent, _ => (m.readNode true false).map some
  | .documentEnd, tokens =>
    let m := match tokens with
      | .documentEnd :: _ => m.skip
      | _ => m
    more (({ m with handles := [] }.expect (.document false)).emit .documentEnd)
  | .node block indentless, _ => (m.readNode block indentless).map some
  | .blockEntry, .blockEntry :: rest =>
    match rest with
    | .blockEntry :: _ | .blockEnd :: _ => more (m.skip.expect .blockEntry).emitEmpty
    | _ => more (m.skip.nodeThen true false .blockEntry)
  | .blockEntry, .blockEnd :: _ => more (m.skip.pop.emit .sequenceEnd)
  | .blockEntry, _ => .error .sequenceEntry
  | .indentlessEntry, .blockEntry :: rest =>
    match rest with
    | .blockEntry :: _ | .key :: _ | .value :: _ | .blockEnd :: _ =>
      more (m.skip.expect .indentlessEntry).emitEmpty
    | _ => more (m.skip.nodeThen true false .indentlessEntry)
  | .indentlessEntry, _ => more (m.pop.emit .sequenceEnd)
  | .blockKey, .key :: rest =>
    match rest with
    | .key :: _ | .value :: _ | .blockEnd :: _ => more (m.skip.expect .blockValue).emitEmpty
    | _ => more (m.skip.nodeThen true true .blockValue)
  | .blockKey, .blockEnd :: _ => more (m.skip.pop.emit .mappingEnd)
  | .blockKey, _ => .error .mappingKey
  | .blockValue, .value :: rest =>
    match rest with
    | .key :: _ | .value :: _ | .blockEnd :: _ => more (m.skip.expect .blockKey).emitEmpty
    | _ => more (m.skip.nodeThen true true .blockKey)
  | .blockValue, _ => more (m.expect .blockKey).emitEmpty
  | .flowEntry _, .flowSequenceEnd :: _ => more (m.skip.pop.emit .sequenceEnd)
  | .flowEntry first, tokens =>
    match first, tokens with
    | true, _ => more m.readFlowEntry
    | false, .flowEntry :: _ => more m.skip.readFlowEntry
    | false, _ => .error .sequenceEntry
  | .pairKey, .value :: _ | .pairKey, .flowEntry :: _ | .pairKey, .flowSequenceEnd :: _ =>
    more (m.skip.expect .pairValue).emitEmpty
  | .pairKey, _ => more (m.nodeThen false false .pairValue)
  | .pairValue, .value :: rest =>
    match rest with
    | .flowEntry :: _ | .flowSequenceEnd :: _ => more (m.skip.expect .pairEnd).emitEmpty
    | _ => more (m.skip.nodeThen false false .pairEnd)
  | .pairValue, _ => more (m.expect .pairEnd).emitEmpty
  | .pairEnd, _ => more ((m.expect (.flowEntry false)).emit .mappingEnd)
  | .flowKey _, .flowMappingEnd :: _ => more (m.skip.pop.emit .mappingEnd)
  | .flowKey first, tokens =>
    match first, tokens with
    | true, _ => more m.readFlowKey
    | false, .flowEntry :: _ => more m.skip.readFlowKey
    | false, _ => .error .mappingKey
  | .flowValue, .value :: rest =>
    match rest with
    | .flowEntry :: _ | .flowMappingEnd :: _ => more (m.skip.expect (.flowKey false)).emitEmpty
    | _ => more (m.skip.nodeThen false false (.flowKey false))
  | .flowValue, _ => more (m.expect (.flowKey false)).emitEmpty
  | .flowNoValue, _ => more (m.expect (.flowKey false)).emitEmpty

/-- Steps to the end of the text. Every step reads a token or ends what was expected, so fuel in
proportion to the number of tokens is enough. -/
def run : (fuel : Nat) → Machine → Except Fault (List Event)
  | 0, m => .ok m.events.reverse
  | fuel + 1, m =>
    match m.step with
    | .error fault => .error fault
    | .ok none => .ok m.events.reverse
    | .ok (some m) => run fuel m

end Machine

def events (text : String) : Except Fault (List Event) :=
  match tokens text with
  | .error fault => .error fault
  | .ok tokens => Machine.run (8 * tokens.size + 8) (.start tokens.toList)

end SpecLint.Yaml
