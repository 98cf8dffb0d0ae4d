import SpecLint.Number.Decimal
import SpecLint.Text.Search

/-!
Names of hosts: addresses in the dotted and in the grouped form, and host names.
-/

namespace SpecLint.Host

/-- Whether a character is a hexadecimal digit. -/
def isHexDigit (c : Char) : Bool :=
  c.isDigit || ('a' ≤ c && c ≤ 'f') || ('A' ≤ c && c ≤ 'F')

/-- A number below 256 without leading zeros. -/
def isOctet (digits : List Char) : Bool :=
  digits.length ≤ 3 && digits.all Char.isDigit &&
    (digits.head? != some '0' || digits.length == 1) &&
    (Decimal.natural? 10 digits).any (· < 256)

/-- Four octets with dots between them. -/
def isIpv4 (text : List Char) : Bool :=
  let octets := Text.splitAt '.' text
  octets.length == 4 && octets.all isOctet

def isGroup (digits : List Char) : Bool :=
  !digits.isEmpty && digits.length ≤ 4 && digits.all isHexDigit

/-- The number of groups in a text, without any omitted ones. A dotted address counts for two and
stands last, where it is admitted. -/
def groupCount? (admitDotted : Bool) (text : List Char) : Option Nat :=
  if text.isEmpty then some 0
  else
    let groups := Text.splitAt ':' text
    let last := groups.getLastD []
    if !groups.dropLast.all isGroup then none
    else if isGroup last then some groups.length
    else if admitDotted && isIpv4 last then some (groups.length + 1)
    else none

/-- Eight groups with colons between them; two colons stand for a run of zero groups. -/
def isIpv6 (text : List Char) : Bool :=
  match Text.cut [':', ':'] text with
  | none => groupCount? true text == some 8
  | some (before, after) =>
    match groupCount? false before, groupCount? true after with
    | some m, some n => m + n ≤ 7
    | _, _ => false

/-- Letters, digits, hyphens and dots, at most 63 characters between dots and 255 in all, without a
hyphen at an end. Letters beyond ASCII are admitted. -/
def isHostname (text : List Char) : Bool :=
  !text.isEmpty && text.length ≤ 255 &&
    text.head? != some '-' && text.getLast? != some '-' &&
    text.all (fun c => c.isAlphanum || c == '-' || c == '.' || c.toNat ≥ 0x80) &&
    (Text.splitAt '.' text).all (fun label => label.length ≤ 63)

end SpecLint.Host
