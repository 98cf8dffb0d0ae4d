import SpecLint.Conformance.Draft
import SpecLint.Json.Pointer
import SpecLint.Regex.Reader
import SpecLint.Text.Blank
import SpecLint.Uri.Basic
import SpecLint.Validation.Moment

/-!
The formats that a text may be asked to have.
-/

namespace SpecLint

/-- A format of texts. -/
inductive Format where
  | date
  | dateTime
  | duration
  | email
  | hostname
  | ipv4
  | ipv6
  | jsonPointer
  | regex
  | time
  | uri
  | uriReference
  | uuid
deriving DecidableEq, Repr

namespace Format

def all : List Format :=
  [.date, .dateTime, .duration, .email, .hostname, .ipv4, .ipv6, .jsonPointer, .regex, .time, .uri,
    .uriReference, .uuid]

def name : Format → String
  | .date => "date"
  | .dateTime => "date-time"
  | .duration => "duration"
  | .email => "email"
  | .hostname => "hostname"
  | .ipv4 => "ipv4"
  | .ipv6 => "ipv6"
  | .jsonPointer => "json-pointer"
  | .regex => "regex"
  | .time => "time"
  | .uri => "uri"
  | .uriReference => "uri-reference"
  | .uuid => "uuid"

/-- The first draft with the format. -/
def since : Format → Draft
  | .jsonPointer | .uriReference => .draft6
  | .duration | .uuid => .draft201909
  | _ => .draft4

/-- The format that a name has in a draft. -/
def ofName? (draft : Draft) (name : String) : Option Format :=
  all.find? fun format => format.name == name && draft.isFrom format.since

/-- The characters of the words of a mailbox. Letters beyond ASCII are admitted. -/
def isMailboxChar (c : Char) : Bool :=
  c.isAlphanum || "!#$%&'*+-/=?^_\x60\x7b|\x7d~".toList.contains c || c.toNat ≥ 0x80

/-- The inside of a quoted mailbox, where a backslash makes a visible character stand for itself. -/
def isQuotedMailbox : List Char → Bool
  | [] => true
  | '\\' :: c :: rest => 0x21 ≤ c.toNat && c.toNat ≤ 0x7E && isQuotedMailbox rest
  | c :: rest =>
    (c == '\t' || (0x20 ≤ c.toNat && c != '"' && c != '\\' && c.toNat != 0x7F)) &&
      isQuotedMailbox rest

/-- The part of an address before the at sign: words with dots between them, or a quoted text. -/
def isMailbox (text : List Char) : Bool :=
  (String.ofList text).utf8ByteSize ≤ 64 &&
    if text.head? = some '"' && text.getLast? = some '"' then
      2 < text.length && isQuotedMailbox (text.drop 1).dropLast
    else
      (Text.splitAt '.' text).all fun word => !word.isEmpty && word.all isMailboxChar

/-- The place of an address after the at sign: a host name whose labels are not empty and have no
hyphen at an end, or an address in brackets. -/
def isMailPlace (text : List Char) : Bool :=
  if text.head? = some '[' && text.getLast? = some ']' then
    let inside := (text.drop 1).dropLast
    match Text.afterStart "IPv6:".toList inside with
    | some address => Host.isIpv6 address
    | none => Host.isIpv4 inside
  else
    Host.isHostname text && (Text.splitAt '.' text).all fun label =>
      !label.isEmpty && label.head? != some '-' && label.getLast? != some '-'

/-- The address in brackets after a name and a space, or the whole text if there is none. -/
def bareAddress? (text : List Char) : Option (List Char) :=
  match Text.cut ['<', ' '] text.reverse with
  | none => some text
  | some (address, _) =>
    let address := Text.trimChars address.reverse
    if address.getLast? = some '>' then some address.dropLast else none

/-- A mailbox and its place, with the last at sign between them. -/
def isEmail (text : List Char) : Bool :=
  (bareAddress? text).any fun address =>
    match address.reverse.span (· != '@') with
    | (place, _ :: mailbox) => isMailbox mailbox.reverse && isMailPlace place.reverse
    | _ => false

/-- Hexadecimal digits in groups of eight, four, four, four and twelve, with hyphens between. -/
def isUuid (text : List Char) : Bool :=
  let groups := Text.splitAt '-' text
  groups.map List.length == [8, 4, 4, 4, 12] && groups.all (·.all Host.isHexDigit)

/-- Whether every tilde begins an escape. -/
def tildesEscape : List Char → Bool
  | [] => true
  | '~' :: '0' :: rest | '~' :: '1' :: rest => tildesEscape rest
  | c :: rest => c != '~' && tildesEscape rest

/-- Whether a text has the format. -/
def accepts (format : Format) (text : String) : Bool :=
  match format with
  | .date => Moment.isDate text.toList
  | .dateTime => Moment.isDateTime text.toList
  | .duration => Moment.isDuration text.toList
  | .email => isEmail text.toList
  | .hostname => Host.isHostname text.toList
  | .ipv4 => Host.isIpv4 text.toList
  | .ipv6 => Host.isIpv6 text.toList
  | .jsonPointer =>
    (text.isEmpty || text.toList.head? == some '/') && tildesEscape text.toList
  | .regex => (Regex.parse? text).isSome
  | .time => Moment.isTime text.toList
  | .uri => Uri.isAbsolute text
  | .uriReference => Uri.isReference text
  | .uuid => isUuid text.toList

end Format

end SpecLint
