import SpecLint.Number.Decimal
import SpecLint.Regex.Basic

/-!
Regular expressions as text: alternatives, groups, classes in brackets, repetitions, the edges of
texts and words, and conditions on the text before and after a place. References back to groups are
not part of the language.
-/

namespace SpecLint.Regex

/-- What one escape or one character inside brackets stands for. -/
inductive ClassItem where
  | char (c : Char)
  | set (set : CharSet)

/-- The character with a given number in hexadecimal digits. -/
def charOfHex? (digits : List Char) : Option Char :=
  (Decimal.natural? 16 digits).bind fun n => if n.isValidChar then some (Char.ofNat n) else none

/-- The character whose number stands in braces, and the text after the closing one. -/
def bracedChar? (text : List Char) : Option (ClassItem × List Char) :=
  match text.span (· != '\x7d') with
  | (digits, _ :: rest) => (charOfHex? digits).map fun c => (.char c, rest)
  | _ => none

/-- What follows a backslash, edges apart, and the text after it. Letters and digits without a meaning
of their own are refused, and so are characters beyond ASCII. -/
def escape? : List Char → Option (ClassItem × List Char)
  | 'd' :: rest => some (.set .digit, rest)
  | 'D' :: rest => some (.set CharSet.digit.negate, rest)
  | 'w' :: rest => some (.set .word, rest)
  | 'W' :: rest => some (.set CharSet.word.negate, rest)
  | 's' :: rest => some (.set .space, rest)
  | 'S' :: rest => some (.set CharSet.space.negate, rest)
  | 'n' :: rest => some (.char '\n', rest)
  | 't' :: rest => some (.char '\t', rest)
  | 'r' :: rest => some (.char '\r', rest)
  | 'f' :: rest => some (.char '\x0c', rest)
  | 'v' :: rest => some (.char '\x0b', rest)
  | 'a' :: rest => some (.char '\x07', rest)
  | 'c' :: letter :: rest =>
    if letter.isAlpha then some (.char (Char.ofNat (letter.toNat % 32)), rest) else none
  | 'x' :: '\x7b' :: rest | 'u' :: '\x7b' :: rest => bracedChar? rest
  | 'x' :: a :: b :: rest => (charOfHex? [a, b]).map fun c => (.char c, rest)
  | 'u' :: a :: b :: c :: d :: rest => (charOfHex? [a, b, c, d]).map fun c => (.char c, rest)
  | c :: rest =>
    if c.isAlphanum || 0x80 ≤ c.toNat || c = '<' || c = '>' then none else some (.char c, rest)
  | [] => none

/-- One item inside brackets and the text after it. -/
def classItem? : List Char → Option (ClassItem × List Char)
  | '\\' :: rest => escape? rest
  | '[' :: _ => none
  | c :: rest => some (.char c, rest)
  | [] => none

/-- The sets inside brackets and the text after the closing one. The fuel bounds their number. -/
def classSets? : Nat → List Char → Option (List CharSet × List Char)
  | 0, _ => none
  | _ + 1, ']' :: rest => some ([], rest)
  | fuel + 1, text =>
    match classItem? text with
    | none => none
    | some (.set set, rest) => (classSets? fuel rest).map fun (sets, rest) => (set :: sets, rest)
    | some (.char low, '-' :: rest) =>
      if rest.head? = some ']' then
        (classSets? fuel ('-' :: rest)).map fun (sets, rest) => (.single low :: sets, rest)
      else
        match classItem? rest with
        | some (.char high, rest) =>
          if high < low then none
          else
            (classSets? fuel rest).map fun (sets, rest) =>
              (⟨[(low.toNat, high.toNat)], false⟩ :: sets, rest)
        | _ => none
    | some (.char c, rest) =>
      (classSets? fuel rest).map fun (sets, rest) => (.single c :: sets, rest)

/-- A class whose opening bracket was read. A closing bracket in first place is a character. -/
def class? (text : List Char) : Option (Regex × List Char) :=
  let (complement, text) :=
    match text with
    | '^' :: rest => (true, rest)
    | _ => (false, text)
  let (first, text) :=
    match text with
    | ']' :: rest => ([CharSet.single ']'], rest)
    | _ => ([], text)
  (classSets? (text.length + 1) text).map fun (sets, rest) =>
    (.oneOf (first ++ sets) complement, rest)

/-- The bounds of a repetition in braces whose opening one was read, and the text after them. The lower
bound has to be given. -/
def bracedBounds? (text : List Char) : Option (Nat × Option Nat × List Char) :=
  (Decimal.natural? 10 (text.takeWhile Char.isDigit)).bind fun least =>
    match text.dropWhile Char.isDigit with
    | '\x7d' :: rest => some (least, some least, rest)
    | ',' :: rest =>
      match rest.dropWhile Char.isDigit with
      | '\x7d' :: after => some (least, Decimal.natural? 10 (rest.takeWhile Char.isDigit), after)
      | _ => none
    | _ => none

/-- Whether an expression may be repeated: conditions on a place may not. -/
def isRepeatable : Regex → Bool
  | .textStart | .textEnd | .wordEdge _ | .ahead _ _ | .behind _ _ => false
  | _ => true

/-- The repetition of an expression, and the text after its bounds. That a repetition prefers fewer
matches makes no difference here. -/
def repeated? (body : Regex) (bounds : Nat × Option Nat × List Char) : Option (Regex × List Char) :=
  let (least, most, rest) := bounds
  if !isRepeatable body || most.any (· < least) then none
  else
    match rest with
    | '?' :: rest => some (.repeated body least most, rest)
    | _ => some (.repeated body least most, rest)

/-- An expression with the repetition that follows it, if any. -/
def withBounds? (body : Regex) : List Char → Option (Regex × List Char)
  | '*' :: rest => repeated? body (0, none, rest)
  | '+' :: rest => repeated? body (1, none, rest)
  | '?' :: rest => repeated? body (0, some 1, rest)
  | '\x7b' :: rest => (bracedBounds? rest).bind (repeated? body)
  | rest => some (body, rest)

/-- How a group is used, and the text after its opening. -/
def groupOpening? : List Char → Option ((Regex → Regex) × List Char)
  | '?' :: ':' :: rest => some (id, rest)
  | '?' :: '=' :: rest => some (fun body => .ahead body false, rest)
  | '?' :: '!' :: rest => some (fun body => .ahead body true, rest)
  | '?' :: '<' :: '=' :: rest => some (fun body => .behind body false, rest)
  | '?' :: '<' :: '!' :: rest => some (fun body => .behind body true, rest)
  | '?' :: '<' :: rest | '?' :: 'P' :: '<' :: rest =>
    let name := rest.takeWhile (· != '>')
    if name.isEmpty || !name.all (fun c => c.isAlphanum || c == '_') then none
    else some (id, rest.drop (name.length + 1))
  | '?' :: _ => none
  | rest => some (id, rest)

mutual

/-- Alternatives, up to a closing parenthesis or the end. The fuel bounds the depth of calls. -/
def choice? : Nat → List Char → Option (Regex × List Char)
  | 0, _ => none
  | fuel + 1, text =>
    match sequence? fuel text with
    | some (first, '|' :: rest) =>
      (choice? fuel rest).map fun (second, rest) => (.choice first second, rest)
    | result => result

def sequence? : Nat → List Char → Option (Regex × List Char)
  | 0, _ => none
  | _ + 1, [] => some (.empty, [])
  | _ + 1, '|' :: rest => some (.empty, '|' :: rest)
  | _ + 1, ')' :: rest => some (.empty, ')' :: rest)
  | fuel + 1, text =>
    match (atom? fuel text).bind fun (first, rest) => withBounds? first rest with
    | some (first, rest) =>
      (sequence? fuel rest).map fun (second, rest) => (.sequence first second, rest)
    | none => none

/-- One expression without the repetition after it. -/
def atom? : Nat → List Char → Option (Regex × List Char)
  | 0, _ => none
  | _ + 1, [] => none
  | fuel + 1, '(' :: rest =>
    match groupOpening? rest with
    | none => none
    | some (use, rest) =>
      match choice? fuel rest with
      | some (body, ')' :: rest) => some (use body, rest)
      | _ => none
  | _ + 1, '[' :: rest => class? rest
  | _ + 1, '.' :: rest => some (.oneOf [.dot] false, rest)
  | _ + 1, '^' :: rest => some (.textStart, rest)
  | _ + 1, '$' :: rest => some (.textEnd, rest)
  | _ + 1, '\\' :: 'b' :: rest => some (.wordEdge false, rest)
  | _ + 1, '\\' :: 'B' :: rest => some (.wordEdge true, rest)
  | _ + 1, '\\' :: 'A' :: rest => some (.textStart, rest)
  | _ + 1, '\\' :: 'z' :: rest => some (.textEnd, rest)
  | _ + 1, '\\' :: rest =>
    (escape? rest).map fun (item, rest) =>
      match item with
      | .char c => (.oneOf [.single c] false, rest)
      | .set set => (.oneOf [set] false, rest)
  | _ + 1, c :: rest =>
    if ['*', '+', '?', '\x7b'].contains c then none else some (.oneOf [.single c] false, rest)

end

/-- The expression that a text is. -/
def parse? (text : String) : Option Regex :=
  match choice? (4 * text.length + 4) text.toList with
  | some (regex, []) => some regex
  | _ => none

end SpecLint.Regex
