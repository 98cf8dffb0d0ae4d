import SpecLint.Decode.Json
import SpecLint.Text.Search

/-!
Routes: which definition the examples of a family belong to, by their names. The first route that
applies decides. The JSON form of a pattern is an object with one key; `RouteTable.ofJson` reads what
`RouteTable.toJson` writes.
-/

namespace SpecLint

/-- A pattern of names. -/
inductive Pattern where
  | equals (name : String)
  | startsWith (start : String)
  /-- Every required text occurs in the name, and no forbidden one does. -/
  | contains (required forbidden : List String)
deriving DecidableEq, Repr

namespace Pattern

def isMatch (pattern : Pattern) (name : String) : Bool :=
  match pattern with
  | .equals expected => name == expected
  | .startsWith start => Text.startsWith start name
  | .contains required forbidden =>
    required.all (Text.contains · name) && !forbidden.any (Text.contains · name)

/-- The names of the kinds of pattern. -/
def kinds : List String := ["equals", "prefix", "contains"]

/-- The JSON form of a pattern. -/
def toJson : Pattern → Json
  | .equals name => .mkObject [("equals", .string name)]
  | .startsWith start => .mkObject [("prefix", .string start)]
  | .contains required forbidden =>
    .mkObject
      [("contains", .mkObject [("all", .ofStrings required), ("none", .ofStrings forbidden)])]

/-- The lists of a pattern by parts; a list that is left out is empty. -/
def decodeParts (fields : Fields) : Decoded Pattern := do
  let texts := Json.decodeList Json.decodeText
  let check (value : Json) : Decoded Unit := (texts value).map fun _ => ()
  fields.check [("all", check), ("none", check)]
  let required ← fields.optional "all" texts []
  let forbidden ← fields.optional "none" texts []
  fields.finish (.contains required forbidden)

/-- A pattern of a kind, given its content and how the parts are read. -/
def decodeKind (parts : Json → Decoded Pattern) (kind : String) (content : Json) :
    Decoded Pattern :=
  match kind with
  | "equals" => content.decodeText.map .equals
  | "prefix" => content.decodeText.map .startsWith
  | "contains" => parts content
  | other => .error (.unknownVariant other kinds)

/-- A pattern that is given by its kind alone, which is never enough. -/
def decodeBareKind (kind : String) : DecodeError :=
  match kind with
  | "equals" | "prefix" => .invalidType .unitVariant "newtype variant"
  | "contains" => .invalidType .unitVariant "struct variant"
  | other => .unknownVariant other kinds

/-- Reads a pattern that stands alone. -/
def ofJson : Json → Decoded Pattern
  | .string kind => .error (decodeBareKind kind)
  | .object [(kind, content)] =>
    let parts : Json → Decoded Pattern
      | .object members => decodeParts ⟨members, .missingField, none⟩
      | other => other.refuse "struct variant"
    decodeKind parts kind content
  | .object _ => .error .notSingleKey
  | other => other.refuse "string or map"

/-- Reads the pattern of a route. The first key is read before any other is refused. -/
def ofRouteJson : Json → Decoded Pattern
  | .string kind => .error (decodeBareKind kind)
  | .object [] => .error .notSingleKey
  | .object ((kind, content) :: more) => do
    let parts (value : Json) : Decoded Pattern := do
      decodeParts (← Fields.ofJson "struct variant Pattern::Contains" ["all", "none"] value)
    let pattern ← decodeKind parts kind content
    if more.isEmpty then .ok pattern else .error .notSingleKey
  | other => other.refuse "enum Pattern"

end Pattern

/-- Sends the examples of a family whose names match to a definition. -/
structure Route where
  family : Family
  pattern : Pattern
  definition : String
deriving DecidableEq

namespace Route

/-- The JSON form of a route. -/
def toJson (route : Route) : Json :=
  .mkObject [("family", .string route.family.text), ("pattern", route.pattern.toJson),
    ("definition", .string route.definition)]

def ofJson (value : Json) : Decoded Route := do
  let fields ← Fields.ofJson "struct Route" ["family", "pattern", "definition"] value
  let check {α : Type} (decode : Json → Decoded α) (value : Json) : Decoded Unit :=
    (decode value).map fun _ => ()
  fields.check
    [("family", check Json.decodeFamily), ("pattern", check Pattern.ofRouteJson),
      ("definition", check Json.decodeText)]
  let family ← fields.required "family" Json.decodeFamily
  let pattern ← fields.required "pattern" Pattern.ofRouteJson
  let definition ← fields.required "definition" Json.decodeText
  fields.finish ⟨family, pattern, definition⟩

end Route

/-- Routes in the order in which they are tried. -/
structure RouteTable where
  routes : List Route
deriving DecidableEq

namespace RouteTable

/-- The definition to which an example of a family belongs. -/
def resolve? (table : RouteTable) (family : Family) (exampleName : String) : Option String :=
  (table.routes.find? fun route =>
    route.family == family && route.pattern.isMatch exampleName).map Route.definition

/-- The JSON form of a table. -/
def toJson (table : RouteTable) : Json := .array (table.routes.map Route.toJson)

def ofJson (value : Json) : Decoded RouteTable :=
  (Json.decodeList Route.ofJson value).map .mk

/-- The routes of the checkout family. -/
def checkoutRoutes (family : Family) : List Route :=
  [⟨family, .equals "complete_checkout_session_response", "CheckoutSessionWithOrder"⟩,
    ⟨family, .contains ["checkout_session"] ["request"], "CheckoutSession"⟩,
    ⟨family, .contains ["create", "request"] [], "CheckoutSessionCreateRequest"⟩,
    ⟨family, .contains ["complete", "request"] [], "CheckoutSessionCompleteRequest"⟩]

/-- The routes of the family of delegated payments. -/
def delegateRoutes (family : Family) : List Route :=
  [⟨family, .equals "delegate_payment_request", "DelegatePaymentRequest"⟩,
    ⟨family, .equals "delegate_payment_success_response", "DelegatePaymentResponse"⟩,
    ⟨family, .startsWith "delegate_payment_error_", "Error"⟩]

/-- The routes that hold unless others are configured. -/
def standard : RouteTable :=
  ⟨checkoutRoutes .agenticCheckout ++ delegateRoutes .delegatePayment⟩

end RouteTable

end SpecLint
