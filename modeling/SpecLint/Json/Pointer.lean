import SpecLint.Json.Basic
import SpecLint.Number.Decimal
import SpecLint.Text.Search

/-!
JSON Pointers: lists of reference tokens, written each after a slash. A tilde and a slash inside a
token are written `~0` and `~1`; `unescape_escape` says that a token is read back.
-/

namespace SpecLint.Json.Pointer

/-- A character inside a written token. -/
def escapeChar (c : Char) : List Char :=
  if c = '~' then ['~', '0'] else if c = '/' then ['~', '1'] else [c]

/-- A token as it is written. -/
def escape (token : List Char) : List Char := token.flatMap escapeChar

def unescape : List Char → List Char
  | '~' :: '1' :: rest => '/' :: unescape rest
  | '~' :: '0' :: rest => '~' :: unescape rest
  | c :: rest => c :: unescape rest
  | [] => []

theorem unescape_cons {c : Char} (h : c ≠ '~') (rest : List Char) :
    unescape (c :: rest) = c :: unescape rest := by
  rw [unescape] <;> simp [h]

theorem unescape_escape (token : List Char) : unescape (escape token) = token := by
  induction token with
  | nil => rfl
  | cons c token ih =>
    rw [escape, List.flatMap_cons, ← escape, escapeChar]
    split
    · rename_i h
      subst h
      simp [unescape, ih]
    · split
      · rename_i h
        subst h
        simp [unescape, ih]
      · rename_i h _
        simpa using unescape_cons h (escape token) |>.trans (by rw [ih])

def text (tokens : List String) : String :=
  String.ofList (tokens.flatMap fun token => '/' :: escape token.toList)

/-- The position that a token denotes in an array. -/
def index? : List Char → Option Nat
  | '+' :: digits => Decimal.natural? 10 digits
  | digits => Decimal.natural? 10 digits

/-- The value directly below another one. -/
def step? (value : Json) (token : List Char) : Option Json :=
  match value with
  | .array items => (index? token).bind fun i => items[i]?
  | .object members => Members.get? members (String.ofList token)
  | _ => none

/-- The value that tokens lead to. -/
def follow? (value : Json) : List (List Char) → Option Json
  | [] => some value
  | token :: rest => (step? value token).bind (follow? · rest)

/-- The value that a written pointer leads to; the empty pointer leads to the whole value, and any
other one starts with a slash. -/
def resolve? (value : Json) : List Char → Option Json
  | [] => some value
  | '/' :: rest => follow? value ((Text.splitAt '/' rest).map unescape)
  | _ => none

end SpecLint.Json.Pointer
