import SpecLint.Conformance.Reference
import SpecLint.Proofs.Text.Search

/-!
Names as tokens of pointers in fragments. A name is written in two layers: tildes and slashes first,
as a pointer has them, then all bytes that may not stand in a fragment. Both are undone in the
opposite order (`fragmentText?_pointerToken`, `Json.Pointer.unescape_escape`), so that different
names have different tokens, and what is written is a token by its form (`isToken_pointerToken`).
-/

namespace SpecLint

/-! ### Bytes of texts -/

namespace Text

theorem byteArray_toList_loop (bytes : ByteArray) (i : Nat) (seen : List UInt8) :
    ByteArray.toList.loop bytes i seen = seen.reverse ++ bytes.data.toList.drop i := by
  fun_induction ByteArray.toList.loop bytes i seen with
  | case1 i seen hi ih =>
      have hi' : i < bytes.data.toList.length := hi
      rw [ih, List.drop_eq_getElem_cons hi']
      simp [ByteArray.get!, hi]
  | case2 i seen hi =>
      have hi' : bytes.data.toList.length ≤ i := Nat.le_of_not_lt hi
      rw [List.drop_eq_nil_of_le hi', List.append_nil]

theorem byteArray_toList_eq (bytes : ByteArray) : bytes.toList = bytes.data.toList := by
  rw [ByteArray.toList, byteArray_toList_loop]
  rfl

/-- The bytes of a text are those of its characters, one after another. -/
theorem utf8_eq (text : String) :
    text.toUTF8.toList = text.toList.flatMap String.utf8EncodeChar := by
  rw [← String.ofList_toList (s := text), byteArray_toList_eq, String.toUTF8_eq_toByteArray,
    String.toByteArray_ofList, String.toList_ofList]
  exact List.toList_data_toByteArray

theorem utf8_append (s t : String) :
    (s ++ t).toUTF8.toList = s.toUTF8.toList ++ t.toUTF8.toList := by
  simp only [utf8_eq, String.toList_append, List.flatMap_append]

theorem fromUTF8?_toUTF8 (text : String) :
    String.fromUTF8? ⟨text.toUTF8.toList.toArray⟩ = some text := by
  rw [byteArray_toList_eq]
  exact dif_pos text.isValidUTF8

theorem utf8EncodeChar_of_lt {c : Char} (h : c.toNat < 0x80) :
    String.utf8EncodeChar c = [UInt8.ofNat c.toNat] := by
  have hc : c.val.toNat ≤ 127 := Nat.le_of_lt_succ h
  simp only [String.utf8EncodeChar, hc, if_true]
  rfl

/-- A byte below 128 is a character by itself. -/
theorem toNat_eq_of_mem_utf8EncodeChar {c : Char} {b : UInt8} (h : b ∈ String.utf8EncodeChar c)
    (hb : b.toNat < 0x80) : c.toNat = b.toNat := by
  by_cases hc : c.toNat < 0x80
  · rw [utf8EncodeChar_of_lt hc] at h
    obtain rfl := List.mem_singleton.1 h
    rw [UInt8.toNat_ofNat', Nat.mod_eq_of_lt (by omega)]
  · -- All bytes of a longer form have their highest bit set.
    have hc' : ¬c.val.toNat ≤ 127 := fun hle => hc (Nat.lt_succ_of_le hle)
    simp only [String.utf8EncodeChar, hc', if_false] at h
    split at h <;> try split at h
    all_goals
      simp only [List.mem_cons, List.not_mem_nil, or_false] at h
      rcases h with rfl | rfl | rfl | rfl
    all_goals
      rw [UInt8.toNat_ofNat'] at hb
      omega

end Text

/-! ### Bytes of tokens -/

namespace Percent

theorem encode_append (keep : UInt8 → Bool) (front rest : List UInt8) :
    encode keep (front ++ rest) = encode keep front ++ encode keep rest := by
  induction front with
  | nil => rfl
  | cons b front ih =>
      rw [List.cons_append, encode, encode, ih]
      split <;> rfl

theorem decode_append {front : List UInt8} (h : sign ∉ front) (rest : List UInt8) :
    decode (front ++ rest) = front ++ decode rest := by
  induction front with
  | nil => rfl
  | cons b front ih =>
      obtain ⟨hb, hfront⟩ := List.ne_and_not_mem_of_not_mem_cons h
      rw [List.cons_append, decode_cons hb.symm, ih hfront, List.cons_append]

theorem hexByte_lt {n : Nat} (h : n < 16) : (hexByte n).toNat < 0x80 := by
  revert n
  decide

theorem lt_of_mem_encode {keep : UInt8 → Bool} (hkeep : ∀ b, keep b = true → b.toNat < 0x80)
    {bytes : List UInt8} {b : UInt8} (h : b ∈ encode keep bytes) : b.toNat < 0x80 := by
  induction bytes with
  | nil => cases h
  | cons byte bytes ih =>
      have hbyte : byte.toNat < 256 := byte.toNat_lt
      rw [encode] at h
      split at h
      · rename_i hkept
        rcases List.mem_cons.1 h with rfl | h
        · exact hkeep _ hkept
        · exact ih h
      · simp only [List.mem_cons] at h
        rcases h with rfl | rfl | rfl | h
        · decide
        · exact hexByte_lt (by omega)
        · exact hexByte_lt (by omega)
        · exact ih h

end Percent

namespace Conformance.Served

open Uri (fragmentText?)

theorem toNat_ofNat_of_lt {n : Nat} (h : n < 0x80) : (Char.ofNat n).toNat = n := by
  have hvalid : n.isValidChar := .inl (by omega)
  rw [Char.ofNat, dif_pos hvalid]
  rfl

/-- The text of bytes that are characters by themselves. -/
def plainText (bytes : List UInt8) : List Char := bytes.map fun b => Char.ofNat b.toNat

theorem utf8_plainText {bytes : List UInt8} (h : ∀ b ∈ bytes, b.toNat < 0x80) :
    (String.ofList (plainText bytes)).toUTF8.toList = bytes := by
  rw [Text.utf8_eq, String.toList_ofList, plainText]
  induction bytes with
  | nil => rfl
  | cons b bytes ih =>
      obtain ⟨hb, hbytes⟩ := List.forall_mem_cons.1 h
      have hchar := toNat_ofNat_of_lt hb
      rw [List.map_cons, List.flatMap_cons, ih hbytes,
        Text.utf8EncodeChar_of_lt (by rw [hchar]; exact hb), hchar, UInt8.ofNat_toNat]
      rfl

theorem lt_of_isTokenByte {b : UInt8} (h : isTokenByte b = true) : b.toNat < 0x80 := by
  simp only [isTokenByte, Bool.and_eq_true, decide_eq_true_eq] at h
  exact h.1.2

/-- The bytes of a token: those of the escaped name, percent-coded. -/
def tokenBytes (name : String) : List UInt8 :=
  Percent.encode isTokenByte ((Json.Pointer.escape name.toList).flatMap String.utf8EncodeChar)

theorem toList_pointerToken (name : String) :
    (pointerToken name).toList = plainText (tokenBytes name) := by
  simp only [pointerToken, Text.utf8_eq, String.toList_ofList]
  rfl

theorem utf8_pointerToken (name : String) :
    (pointerToken name).toUTF8.toList = tokenBytes name := by
  rw [← String.ofList_toList (s := pointerToken name), toList_pointerToken]
  exact utf8_plainText fun b hb => Percent.lt_of_mem_encode (fun _ => lt_of_isTokenByte) hb

/-- The escaped name is read off a fragment that ends in its token. -/
theorem fragmentText?_append_pointerToken {front : String}
    (hfront : Percent.sign ∉ front.toList.flatMap String.utf8EncodeChar) (name : String) :
    fragmentText? (front ++ pointerToken name) =
      some (front ++ String.ofList (Json.Pointer.escape name.toList)) := by
  have hdecode : Percent.decode (front ++ pointerToken name).toUTF8.toList =
      (front ++ String.ofList (Json.Pointer.escape name.toList)).toUTF8.toList := by
    rw [← Text.utf8_eq] at hfront
    rw [Text.utf8_append, Percent.decode_append hfront, utf8_pointerToken, tokenBytes,
      Percent.decode_encode (by decide), Text.utf8_append, Text.utf8_eq (String.ofList _),
      String.toList_ofList]
  rw [fragmentText?, hdecode, Text.fromUTF8?_toUTF8]

theorem fragmentText?_pointerToken (name : String) :
    fragmentText? (pointerToken name) =
      some (String.ofList (Json.Pointer.escape name.toList)) := by
  have h : fragmentText? ("" ++ pointerToken name) =
      some ("" ++ String.ofList (Json.Pointer.escape name.toList)) :=
    fragmentText?_append_pointerToken (by decide) name
  rwa [String.empty_append, String.empty_append] at h

/-- Different names have different tokens. -/
theorem pointerToken_injective {name other : String} (h : pointerToken name = pointerToken other) :
    name = other := by
  have hescaped := fragmentText?_pointerToken name
  rw [h, fragmentText?_pointerToken, Option.some.injEq, String.ofList_inj] at hescaped
  have hname := Json.Pointer.unescape_escape name.toList
  rw [← hescaped, Json.Pointer.unescape_escape] at hname
  exact String.toList_injective hname.symm

/-! ### The form of tokens -/

/-- The letters and digits of ASCII, and the marks other than the tilde that a fragment may have,
slashes and question marks apart. -/
def IsTokenChar (c : Char) : Prop :=
  ('A' ≤ c ∧ c ≤ 'Z') ∨ ('a' ≤ c ∧ c ≤ 'z') ∨ ('0' ≤ c ∧ c ≤ '9') ∨
    c ∈ ['-', '.', '_', '!', '$', '&', '\'', '(', ')', '*', '+', ',', ';', '=', ':', '@']

instance (c : Char) : Decidable (IsTokenChar c) := inferInstanceAs (Decidable (_ ∨ _ ∨ _ ∨ _))

/-- Texts of characters of fragments and whole escapes, in which a tilde stands only before a zero
or a one. -/
inductive IsToken : List Char → Prop
  | nil : IsToken []
  | char {c : Char} {rest : List Char} (hc : IsTokenChar c) (hrest : IsToken rest) :
      IsToken (c :: rest)
  | tilde {digit : Char} {rest : List Char} (hdigit : digit = '0' ∨ digit = '1')
      (hrest : IsToken rest) : IsToken ('~' :: digit :: rest)
  | escape {high low : Char} {rest : List Char} (hhigh : Host.isHexDigit high = true)
      (hlow : Host.isHexDigit low = true) (hrest : IsToken rest) :
      IsToken ('%' :: high :: low :: rest)

theorem isPathChar_iff {c : Char} : Uri.isPathChar c = true ↔ IsTokenChar c ∨ c = '~' := by
  have halphanum : c.isAlphanum = true ↔
      ('A' ≤ c ∧ c ≤ 'Z') ∨ ('a' ≤ c ∧ c ≤ 'z') ∨ ('0' ≤ c ∧ c ≤ '9') := by
    have h : c.isAlphanum = (decide ('A' ≤ c ∧ c ≤ 'Z') ||
        (decide ('a' ≤ c) && decide (c ≤ 'z')) || (decide ('0' ≤ c) && decide (c ≤ '9'))) := rfl
    rw [h]
    simp only [Bool.or_eq_true, Bool.and_eq_true, decide_eq_true_eq, or_assoc]
  simp only [Uri.isPathChar, Uri.isNameChar, Uri.isUnreserved, Uri.isSubDelimiter, Bool.or_eq_true,
    halphanum, beq_iff_eq, List.contains_iff_mem, List.mem_cons, List.not_mem_nil, IsTokenChar]
  grind

theorem IsToken.append {front rest : List Char} (hfront : IsToken front) (hrest : IsToken rest) :
    IsToken (front ++ rest) := by
  induction hfront with
  | nil => exact hrest
  | char hc _ ih => exact .char hc ih
  | tilde hdigit _ ih => exact .tilde hdigit ih
  | escape hhigh hlow _ ih => exact .escape hhigh hlow ih

theorem isTokenChar_of_isHexDigit {c : Char} (h : Host.isHexDigit c = true) : IsTokenChar c := by
  have hdigits : Host.isHexDigit c =
      ((decide ('0' ≤ c) && decide (c ≤ '9')) || (decide ('a' ≤ c) && decide (c ≤ 'f')) ||
        (decide ('A' ≤ c) && decide (c ≤ 'F'))) := rfl
  rw [hdigits] at h
  simp only [Bool.or_eq_true, Bool.and_eq_true, decide_eq_true_eq] at h
  rcases h with (h | h) | h
  · exact .inr (.inr (.inl h))
  · exact .inr (.inl ⟨h.1, Char.le_trans h.2 (by decide)⟩)
  · exact .inl ⟨h.1, Char.le_trans h.2 (by decide)⟩

theorem IsToken.char_of_mem {cs : List Char} (h : IsToken cs) {c : Char} (hc : c ∈ cs) :
    IsTokenChar c ∨ c = '~' ∨ c = '%' := by
  induction h with
  | nil => cases hc
  | char hchar _ ih =>
      rcases List.mem_cons.1 hc with rfl | hc
      · exact .inl hchar
      · exact ih hc
  | tilde hdigit _ ih =>
      simp only [List.mem_cons] at hc
      rcases hc with rfl | rfl | hc
      · exact .inr (.inl rfl)
      · rcases hdigit with rfl | rfl <;> exact .inl (by decide)
      · exact ih hc
  | escape hhigh hlow _ ih =>
      simp only [List.mem_cons] at hc
      rcases hc with rfl | rfl | rfl | hc
      · exact .inr (.inr rfl)
      · exact .inl (isTokenChar_of_isHexDigit hhigh)
      · exact .inl (isTokenChar_of_isHexDigit hlow)
      · exact ih hc

theorem isHexDigit_hexByte {n : Nat} (h : n < 16) :
    Host.isHexDigit (Char.ofNat (Percent.hexByte n).toNat) = true := by
  revert n
  decide

theorem isToken_encode {bytes : List UInt8} (h : ∀ b ∈ bytes, b.toNat ≠ '~'.toNat) :
    IsToken (plainText (Percent.encode isTokenByte bytes)) := by
  induction bytes with
  | nil => exact .nil
  | cons b bytes ih =>
      obtain ⟨hb, hbytes⟩ := List.forall_mem_cons.1 h
      have hlt : b.toNat < 256 := b.toNat_lt
      rw [Percent.encode]
      split
      · rename_i hkept
        simp only [isTokenByte, Bool.and_eq_true, decide_eq_true_eq] at hkept
        refine .char ((isPathChar_iff.1 hkept.2).resolve_right fun htilde => hb ?_) (ih hbytes)
        rw [← htilde, toNat_ofNat_of_lt hkept.1.2]
      · exact .escape (isHexDigit_hexByte (by omega)) (isHexDigit_hexByte (by omega)) (ih hbytes)

theorem isToken_escapeChar (c : Char) :
    IsToken (plainText (Percent.encode isTokenByte
      ((Json.Pointer.escapeChar c).flatMap String.utf8EncodeChar))) := by
  rw [Json.Pointer.escapeChar]
  split
  · exact .tilde (.inl rfl) .nil
  · split
    · exact .tilde (.inr rfl) .nil
    · rename_i htilde _
      refine isToken_encode fun b hb heq => htilde ?_
      rw [List.flatMap_singleton] at hb
      have hc : c.toNat = '~'.toNat :=
        (Text.toNat_eq_of_mem_utf8EncodeChar hb (heq ▸ by decide)).trans heq
      rw [← Char.ofNat_toNat c, hc]
      rfl

theorem isToken_pointerToken (name : String) : IsToken (pointerToken name).toList := by
  rw [toList_pointerToken, tokenBytes]
  induction name.toList with
  | nil => exact .nil
  | cons c cs ih =>
      rw [Json.Pointer.escape, List.flatMap_cons, ← Json.Pointer.escape, List.flatMap_append,
        Percent.encode_append, plainText, List.map_append]
      exact (isToken_escapeChar c).append ih

theorem slash_notMem_pointerToken (name : String) : '/' ∉ (pointerToken name).toList := by
  intro hslash
  exact absurd ((isToken_pointerToken name).char_of_mem hslash) (by decide)

theorem hash_notMem_pointerToken (name : String) : '#' ∉ (pointerToken name).toList := by
  intro hhash
  exact absurd ((isToken_pointerToken name).char_of_mem hhash) (by decide)

end Conformance.Served

end SpecLint
