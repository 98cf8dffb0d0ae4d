import SpecLint.Uri.Host

/-!
References to resources: a scheme, an authority, a path, a query and a fragment, all but the path
optional. `Uri.parse?` accepts exactly the texts that have only the characters allowed in each part.
-/

namespace SpecLint

/-- A reference to a resource, by parts without their marks. It is absolute if it has a scheme. -/
structure Uri where
  scheme : Option (List Char)
  authority : Option (List Char)
  path : List Char
  query : Option (List Char)
  fragment : Option (List Char)
deriving DecidableEq, Repr

namespace Uri

/-- The characters that are never written as percent signs and digits. -/
def isUnreserved (c : Char) : Bool :=
  c.isAlphanum || c == '-' || c == '.' || c == '_' || c == '~'

/-- The characters that stand for themselves in most parts. -/
def isSubDelimiter (c : Char) : Bool :=
  ['!', '$', '&', '\'', '(', ')', '*', '+', ',', ';', '='].contains c

/-- The characters of names of hosts. -/
def isNameChar (c : Char) : Bool := isUnreserved c || isSubDelimiter c

/-- The characters of paths, slashes apart. -/
def isPathChar (c : Char) : Bool := isNameChar c || c == ':' || c == '@'

/-- Whether a text has only allowed characters and whole escapes. -/
def isWritten (allowed : Char → Bool) : List Char → Bool
  | [] => true
  | '%' :: high :: low :: rest =>
    Host.isHexDigit high && Host.isHexDigit low && isWritten allowed rest
  | c :: rest => allowed c && isWritten allowed rest

/-- A letter, then letters, digits and some marks. -/
def isScheme (text : List Char) : Bool :=
  text.head?.any Char.isAlpha &&
    text.all fun c => c.isAlphanum || c == '+' || c == '-' || c == '.'

/-- Splits a text at the first occurrence of a mark. -/
def splitMark (mark : Char) (text : List Char) : List Char × Option (List Char) :=
  match text.span (· != mark) with
  | (before, _ :: after) => (before, some after)
  | (before, []) => (before, none)

def splitScheme (text : List Char) : Option (List Char) × List Char :=
  match text.span fun c => c != ':' && c != '/' with
  | (scheme, ':' :: rest) => if isScheme scheme then (some scheme, rest) else (none, text)
  | _ => (none, text)

def splitAuthority : List Char → Option (List Char) × List Char
  | '/' :: '/' :: rest =>
    let (authority, path) := rest.span (· != '/')
    (some authority, path)
  | path => (none, path)

/-- The parts of an authority: what stands before the at sign, the host and the port. -/
structure Authority where
  user : Option (List Char)
  host : List Char
  port : Option (List Char)
deriving DecidableEq, Repr

/-- Splits an authority. A host in brackets keeps them. -/
def Authority.ofText (text : List Char) : Authority :=
  let (user, place) :=
    match splitMark '@' text with
    | (user, some place) => (some user, place)
    | (place, none) => (none, place)
  match place with
  | '[' :: _ =>
    match splitMark ']' place with
    | (inside, some (':' :: port)) => ⟨user, inside ++ [']'], some port⟩
    | (inside, some rest) => ⟨user, inside ++ ']' :: rest, none⟩
    | (host, none) => ⟨user, host, none⟩
  | _ =>
    let (host, port) := splitMark ':' place
    ⟨user, host, port⟩

/-- An address of a version to come: its number, a point, and name characters or colons. -/
def isFutureAddress : List Char → Bool
  | v :: rest =>
    (v == 'v' || v == 'V') &&
      match splitMark '.' rest with
      | (version, some address) =>
        !version.isEmpty && version.all Host.isHexDigit && !address.isEmpty &&
          address.all fun c => isNameChar c || c == ':'
      | (_, none) => false
  | [] => false

/-- Whether a host is an address in brackets or a name. -/
def isHost : List Char → Bool
  | '[' :: rest =>
    match splitMark ']' rest with
    | (address, some []) => Host.isIpv6 address || isFutureAddress address
    | _ => false
  | name => isWritten isNameChar name

/-- Whether all parts of an authority have allowed characters. -/
def Authority.isValid (authority : Authority) : Bool :=
  authority.user.all (isWritten fun c => isNameChar c || c == ':') &&
    isHost authority.host && authority.port.all (·.all Char.isDigit)

/-- Whether a path may follow what stands before it. Without a scheme, its first part may not look
like one. -/
def isPath (scheme authority : Option (List Char)) (path : List Char) : Bool :=
  isWritten (fun c => isPathChar c || c == '/') path &&
    (scheme.isSome || authority.isSome || !(path.takeWhile (· != '/')).contains ':')

/-- The reference that a text is. -/
def parse? (text : String) : Option Uri :=
  let (rest, fragment) := splitMark '#' text.toList
  let (rest, query) := splitMark '?' rest
  let (scheme, rest) := splitScheme rest
  let (authority, path) := splitAuthority rest
  let isTail := isWritten fun c => isPathChar c || c == '/' || c == '?'
  if isPath scheme authority path && authority.all (fun a => (Authority.ofText a).isValid) &&
      query.all isTail && fragment.all isTail then
    some ⟨scheme, authority, path, query, fragment⟩
  else none

/-- Whether a text is a reference. -/
def isReference (text : String) : Bool := (parse? text).isSome

/-- Whether a text is a reference with a scheme. -/
def isAbsolute (text : String) : Bool := (parse? text).any (·.scheme.isSome)

def text (uri : Uri) : String :=
  let part (before : List Char) (content : Option (List Char)) (after : List Char) : List Char :=
    match content with
    | some content => before ++ content ++ after
    | none => []
  String.ofList (part [] uri.scheme [':'] ++ part ['/', '/'] uri.authority [] ++ uri.path ++
    part ['?'] uri.query [] ++ part ['#'] uri.fragment [])

def resource (uri : Uri) : Uri := { uri with fragment := none }

end Uri

end SpecLint
