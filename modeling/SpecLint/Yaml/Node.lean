import SpecLint.Yaml.Event

/-!
The nodes of a YAML document as a tree, with aliases replaced by what they stand for. Nesting is
limited, and so is the number of aliases that are followed.
-/

namespace SpecLint.Yaml

inductive Node where
  | scalar (tag : Option String) (text : String) (plain : Bool)
  | sequence (tag : Option String) (items : List Node)
  | mapping (tag : Option String) (entries : List (Node × Node))
deriving Inhabited

/-- The events of one document and the places of its anchors. -/
structure DocumentEvents where
  /-- The events; an alias is given by the number of its anchor. -/
  events : Array (Event × Option Nat)
  /-- The place of the anchor of a number. -/
  places : List (Nat × Nat)

namespace DocumentEvents

/-- The numbers of the anchors so far and their places. An anchor's number is how many names have
been used before it, so a name that is used again may share its number with a later one; the last
place counts. -/
structure Anchors where
  numbers : List (String × Nat)
  places : List (Nat × Nat)

def Anchors.note (anchors : Anchors) (name : Option String) (place : Nat) : Anchors :=
  match name with
  | none => anchors
  | some name =>
    let number := anchors.numbers.length
    { numbers := (name, number) :: anchors.numbers.filter fun (other, _) => other != name
      places := (number, place) :: anchors.places }

/-- The properties of the node that an event starts. -/
def anchorOf : Event → Option String
  | .scalar properties _ _ | .sequenceStart properties | .mappingStart properties =>
    properties.anchor
  | _ => none

/-- The events of a document, with aliases as numbers. -/
def number : Anchors → (place : Nat) → List Event →
    Except Fault (List (Event × Option Nat) × List (Nat × Nat))
  | anchors, _, [] => .ok ([], anchors.places)
  | anchors, place, event :: rest =>
    match event with
    | .alias name =>
      match anchors.numbers.lookup name with
      | none => .error .unknownAlias
      | some n =>
        (number anchors (place + 1) rest).map fun (events, places) =>
          ((event, some n) :: events, places)
    | _ =>
      (number (anchors.note (anchorOf event) place) (place + 1) rest).map
        fun (events, places) => ((event, none) :: events, places)

/-- The events of the only document of a text. -/
def ofEvents (events : List Event) : Except Fault DocumentEvents :=
  let isStart (event : Event) : Bool := match event with | .documentStart => true | _ => false
  let isMarker (event : Event) : Bool :=
    match event with
    | .documentStart | .documentEnd => true
    | _ => false
  if 1 < events.countP isStart then .error .severalDocuments
  else
    (number ⟨[], []⟩ 0 (events.filter fun event => !isMarker event)).map
      fun (events, places) => ⟨events.toArray, places⟩

end DocumentEvents

/-- How many nodes may be nested. -/
def maxDepth : Nat := 128

/-- A part of the tree, the place after its events, and how many aliases have been followed. -/
abbrev Composed (α : Type) := Except Fault (α × Nat × Nat)

mutual

/-- The node whose events start at a place. -/
def composeNode (document : DocumentEvents) : (fuel place depth jumps : Nat) → Composed Node
  | 0, _, _, _ => .error .tooManyAliases
  | fuel + 1, place, depth, jumps =>
    match document.events[place]? with
    | some (.alias _, some number) =>
      if jumps + 1 > 100 * document.events.size then .error .tooManyAliases
      else
        match document.places.lookup number with
        | none => .error .unknownAlias
        | some target =>
          match composeNode document fuel target depth (jumps + 1) with
          | .error fault => .error fault
          | .ok (node, _, jumps) => .ok (node, place + 1, jumps)
    | some (.scalar properties text plain, _) =>
      .ok (.scalar properties.tag text plain, place + 1, jumps)
    | some (.sequenceStart properties, _) =>
      if depth = maxDepth then .error .tooDeep
      else
        match composeItems document fuel (place + 1) (depth + 1) jumps with
        | .error fault => .error fault
        | .ok (items, place, jumps) => .ok (.sequence properties.tag items, place, jumps)
    | some (.mappingStart properties, _) =>
      if depth = maxDepth then .error .tooDeep
      else
        match composeEntries document fuel (place + 1) (depth + 1) jumps with
        | .error fault => .error fault
        | .ok (entries, place, jumps) => .ok (.mapping properties.tag entries, place, jumps)
    | _ => .error .nodeContent

/-- The nodes up to the end of a sequence. -/
def composeItems (document : DocumentEvents) : (fuel place depth jumps : Nat) →
    Composed (List Node)
  | 0, _, _, _ => .error .tooManyAliases
  | fuel + 1, place, depth, jumps =>
    match document.events[place]? with
    | some (.sequenceEnd, _) => .ok ([], place + 1, jumps)
    | _ =>
      match composeNode document fuel place depth jumps with
      | .error fault => .error fault
      | .ok (item, place, jumps) =>
        match composeItems document fuel place depth jumps with
        | .error fault => .error fault
        | .ok (items, place, jumps) => .ok (item :: items, place, jumps)

/-- The pairs of nodes up to the end of a mapping. -/
def composeEntries (document : DocumentEvents) : (fuel place depth jumps : Nat) →
    Composed (List (Node × Node))
  | 0, _, _, _ => .error .tooManyAliases
  | fuel + 1, place, depth, jumps =>
    match document.events[place]? with
    | some (.mappingEnd, _) => .ok ([], place + 1, jumps)
    | _ =>
      match composeNode document fuel place depth jumps with
      | .error fault => .error fault
      | .ok (key, place, jumps) =>
        match composeNode document fuel place depth jumps with
        | .error fault => .error fault
        | .ok (value, place, jumps) =>
          match composeEntries document fuel place depth jumps with
          | .error fault => .error fault
          | .ok (entries, place, jumps) => .ok ((key, value) :: entries, place, jumps)

end

/-- The tree of a text; a text without a document is an empty plain text. Between two aliases every
event is read at most once, which bounds the number of steps. -/
def parseNode (text : String) : Except Fault Node :=
  match events text with
  | .error fault => .error fault
  | .ok events =>
    match DocumentEvents.ofEvents events with
    | .error fault => .error fault
    | .ok document =>
      let size := document.events.size
      if size = 0 then .ok (.scalar none "" true)
      else
        (composeNode document ((size + 1) * (200 * size + 2)) 0 0 0).map fun (node, _, _) => node

end SpecLint.Yaml
