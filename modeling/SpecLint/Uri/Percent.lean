/-!
Percent-coding of bytes: a byte that may not stand for itself is written as a percent sign and two
hexadecimal digits. `decode_encode` says that the bytes are read back, whatever bytes were kept,
provided that the percent sign was not.
-/

namespace SpecLint.Percent

/-- The value of a hexadecimal digit, given as a byte. -/
def hexValue? (b : UInt8) : Option Nat :=
  let n := b.toNat
  if 48 ≤ n ∧ n ≤ 57 then some (n - 48)
  else if 65 ≤ n ∧ n ≤ 70 then some (n - 55)
  else if 97 ≤ n ∧ n ≤ 102 then some (n - 87)
  else none

/-- A hexadecimal digit in upper case, as a byte. -/
def hexByte (n : Nat) : UInt8 :=
  UInt8.ofNat (if n < 10 then 48 + n else 55 + n)

def sign : UInt8 := 37

/-- Bytes with all but the kept ones written as percent signs and digits. -/
def encode (keep : UInt8 → Bool) : List UInt8 → List UInt8
  | [] => []
  | b :: rest =>
    if keep b then b :: encode keep rest
    else sign :: hexByte (b.toNat / 16) :: hexByte (b.toNat % 16) :: encode keep rest

/-- The byte that two hexadecimal digits denote. -/
def octet? (high low : UInt8) : Option UInt8 :=
  match hexValue? high, hexValue? low with
  | some h, some l => some (UInt8.ofNat (h * 16 + l))
  | _, _ => none

/-- The bytes that were encoded; a percent sign without two digits stands for itself. -/
def decode : List UInt8 → List UInt8
  | b :: high :: low :: rest =>
    if b = sign then
      match octet? high low with
      | some octet => octet :: decode rest
      | none => b :: decode (high :: low :: rest)
    else b :: decode (high :: low :: rest)
  | short => short

theorem decode_cons {b : UInt8} (h : b ≠ sign) (rest : List UInt8) :
    decode (b :: rest) = b :: decode rest := by
  match rest with
  | [] => rfl
  | [_] => rfl
  | _ :: _ :: _ => rw [decode, if_neg h]

theorem hexValue?_hexByte {n : Nat} (h : n < 16) : hexValue? (hexByte n) = some n := by
  revert n
  decide

theorem octet?_hexByte (b : UInt8) :
    octet? (hexByte (b.toNat / 16)) (hexByte (b.toNat % 16)) = some b := by
  have hb : b.toNat < 256 := b.toNat_lt
  simp only [octet?, hexValue?_hexByte (show b.toNat / 16 < 16 by omega),
    hexValue?_hexByte (show b.toNat % 16 < 16 by omega)]
  rw [show b.toNat / 16 * 16 + b.toNat % 16 = b.toNat by omega]
  simp

theorem decode_encode {keep : UInt8 → Bool} (h : keep sign = false) (bytes : List UInt8) :
    decode (encode keep bytes) = bytes := by
  induction bytes with
  | nil => rfl
  | cons b rest ih =>
    rw [encode]
    split
    · rename_i hb
      have hne : b ≠ sign := by
        rintro rfl
        simp [h] at hb
      rw [decode_cons hne, ih]
    · rw [decode, if_pos rfl, octet?_hexByte]
      simp [ih]

end SpecLint.Percent

namespace SpecLint.Uri

/-- What a fragment means, as text. -/
def fragmentText? (fragment : String) : Option String :=
  String.fromUTF8? ⟨(Percent.decode fragment.toUTF8.toList).toArray⟩

end SpecLint.Uri
