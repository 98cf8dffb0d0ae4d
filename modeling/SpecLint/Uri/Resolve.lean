import SpecLint.Uri.Basic
import SpecLint.Uri.Percent

/-!
Normal forms of references, and the resolution of a reference against a base.
-/

namespace SpecLint.Uri

/-- Writes escapes in one way: unreserved characters as themselves, digits in upper case. -/
def normalEscapes : List Char → List Char
  | '%' :: high :: low :: rest =>
    match Decimal.natural? 16 [high, low] with
    | some n =>
      if isUnreserved (Char.ofNat n) then Char.ofNat n :: normalEscapes rest
      else '%' :: high.toUpper :: low.toUpper :: normalEscapes rest
    | none => '%' :: high :: low :: normalEscapes rest
  | c :: rest => c :: normalEscapes rest
  | [] => []

def lowerCase : List Char → List Char
  | '%' :: high :: low :: rest => '%' :: high :: low :: lowerCase rest
  | c :: rest => c.toLower :: lowerCase rest
  | [] => []

/-- The port that a scheme has by itself. -/
def defaultPort? (scheme : List Char) : Option Nat :=
  [("http", 80), ("https", 443), ("ws", 80), ("wss", 443), ("ftp", 21)].lookup
    (String.ofList scheme)

/-- An authority in normal form, without an empty port and without the port that goes without
saying. -/
def normalAuthority (scheme : Option (List Char)) (text : List Char) : List Char :=
  let authority := Authority.ofText text
  let user := (authority.user.map (normalEscapes · ++ ['@'])).getD []
  let port := authority.port.filter fun digits =>
    !digits.isEmpty &&
      (Decimal.natural? 10 digits).all fun n => scheme.bind defaultPort? != some n
  user ++ lowerCase (normalEscapes authority.host) ++ (port.map (':' :: ·)).getD []

/-- The segments of a rooted path that are left when dots are followed. -/
def withoutDots (segments : List (List Char)) : List (List Char) :=
  let kept := segments.foldl (fun stack segment =>
    if segment = ['.'] then stack
    else if segment = ['.', '.'] then stack.tail
    else segment :: stack) []
  let last := segments.getLastD []
  (if last = ['.'] || last = ['.', '.'] then [] :: kept else kept).reverse

/-- A path with its dots followed, if it is rooted. -/
def normalPath : List Char → List Char
  | '/' :: rest => '/' :: ['/'].intercalate (withoutDots (Text.splitAt '/' rest))
  | path => path

/-- The normal form of an absolute reference. -/
def normal (uri : Uri) : Uri :=
  let scheme := uri.scheme.map (·.map Char.toLower)
  let path := normalPath (normalEscapes uri.path)
  ⟨scheme, uri.authority.map (normalAuthority scheme),
    if uri.authority.isNone && Text.afterStart ['/', '/'] path != none then ['/', '.'] ++ path
    else path,
    uri.query.map normalEscapes, uri.fragment.map normalEscapes⟩

/-- The path of a relative reference, placed beside the last part of the path of the base. -/
def mergedPath (base : Uri) (path : List Char) : List Char :=
  if base.authority.isSome && base.path.isEmpty then '/' :: path
  else (base.path.reverse.dropWhile (· != '/')).reverse ++ path

/-- Whether nothing but fragments can be resolved against a base. -/
def isOpaque (base : Uri) : Bool :=
  base.authority.isNone && base.path.head? != some '/'

/-- The absolute reference that a reference stands for at a base, in normal form. -/
def resolve? (base reference : Uri) : Option Uri :=
  if reference.scheme.isSome then some reference.normal
  else if reference.authority.isSome then
    some { reference with scheme := base.scheme }.normal
  else if reference.path.isEmpty then
    if base.isOpaque && reference.query.isSome then none
    else
      some { base with
        query := if reference.query.isSome then reference.query else base.query,
        fragment := reference.fragment }.normal
  else if reference.path.head? = some '/' then
    if base.isOpaque then none
    else some { reference with scheme := base.scheme, authority := base.authority }.normal
  else if base.isOpaque then none
  else
    some { reference with
      scheme := base.scheme,
      authority := base.authority,
      path := mergedPath base reference.path }.normal

end SpecLint.Uri
