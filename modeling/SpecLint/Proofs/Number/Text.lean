import SpecLint.Number.Decimal
import SpecLint.Number.Layout
import SpecLint.Proofs.Number.Shortest

/-!
The texts of floating point numbers. The text of a number that is not a zero reads as its shortest
decimal (`exists_read?_yaml`), so no two numbers have the same text (`yaml_injective`).
-/

namespace SpecLint

namespace Decimal

/-! ### Digits -/

theorem toNat_sub_lt_of_isDigit {c : Char} (h : c.isDigit = true) : c.toNat - '0'.toNat < 10 := by
  rw [Char.isDigit, Bool.and_eq_true, decide_eq_true_eq, decide_eq_true_eq] at h
  have hle : c.toNat ≤ 57 := h.2
  have hzero : '0'.toNat = 48 := rfl
  omega

theorem natural?_eq_ofDigitChars {digits : List Char} (hne : digits ≠ [])
    (hdigits : ∀ c ∈ digits, c.isDigit = true) :
    natural? 10 digits = some (Nat.ofDigitChars 10 digits 0) := by
  simp only [natural?]
  rw [if_neg (by simpa using hne)]
  clear hne
  generalize 0 = total
  induction digits generalizing total with
  | nil => rfl
  | cons c rest ih =>
      obtain ⟨hc, hrest⟩ := List.forall_mem_cons.1 hdigits
      rw [List.foldl_cons, Option.bind_some, if_pos hc, if_pos (toNat_sub_lt_of_isDigit hc),
        Option.map_some, ih hrest, Nat.ofDigitChars_cons, Nat.mul_comm]

theorem text_ne_nil (d : Decimal) : d.text ≠ [] := Nat.toDigits_ne_nil

theorem isDigit_of_mem_text {d : Decimal} {c : Char} (h : c ∈ d.text) : c.isDigit = true :=
  Nat.isDigit_of_mem_toDigits (by norm_num) (by norm_num) h

theorem ofDigitChars_text (d : Decimal) : Nat.ofDigitChars 10 d.text 0 = d.digits :=
  Nat.ofDigitChars_ten_toDigits

/-! ### Texts that denote a number -/

/-- The digits after the point with the point, if there are any. -/
def pointed (fraction : List Char) : List Char :=
  if fraction.isEmpty then [] else '.' :: fraction

/-- The text is a decimal without a sign: digits, perhaps with a point among them, and perhaps an
exponent. It has a point or an exponent, so it is not the text of an integer. -/
structure IsNumeral (text whole fraction tail : List Char) (power : ℤ) (q : ℚ) : Prop where
  eq : text = whole ++ (pointed fraction ++ tail)
  ne_nil : whole ≠ []
  digits : ∀ c ∈ whole ++ fraction, c.isDigit = true
  exponent : exponent? tail = some power
  marked : fraction ≠ [] ∨ tail ≠ []
  value : (Nat.ofDigitChars 10 (whole ++ fraction) 0 : ℚ) * 10 ^ (power - fraction.length) = q

/-- The text is a decimal that denotes the number. -/
def Denotes (text : List Char) (q : ℚ) : Prop :=
  ∃ whole fraction tail power, IsNumeral text whole fraction tail power q

variable {text whole fraction tail : List Char} {power : ℤ} {q : ℚ}

theorem eq_nil_or_of_exponent? (h : exponent? tail = some power) :
    tail = [] ∨ ∃ c rest, tail = c :: rest ∧ (c = 'e' ∨ c = 'E') := by
  cases tail with
  | nil => exact .inl rfl
  | cons c rest =>
      refine .inr ⟨c, rest, rfl, ?_⟩
      by_contra hc
      rw [exponent?, if_neg (by simpa using hc)] at h
      cases h

theorem splitSign_of_isDigit {c : Char} {rest : List Char} (hc : c.isDigit = true)
    (negative : Bool) :
    splitSign (if negative then '-' :: c :: rest else c :: rest) = (negative, c :: rest) := by
  cases negative with
  | true => rfl
  | false =>
      have hminus : c ≠ '-' := by rintro rfl; cases hc
      have hplus : c ≠ '+' := by rintro rfl; cases hc
      simp only [Bool.false_eq_true, if_false]
      unfold splitSign
      split
      · rename_i heq
        cases heq
        exact absurd rfl hminus
      · rename_i heq
        cases heq
        exact absurd rfl hplus
      · rfl

theorem takeWhile_isDigit_tail (h : exponent? tail = some power) :
    tail.takeWhile Char.isDigit = [] ∧ tail.dropWhile Char.isDigit = tail := by
  rcases eq_nil_or_of_exponent? h with rfl | ⟨c, rest, rfl, rfl | rfl⟩
  · exact ⟨rfl, rfl⟩
  · exact ⟨rfl, rfl⟩
  · exact ⟨rfl, rfl⟩

theorem takeWhile_isDigit_append {digits rest : List Char} (h : ∀ c ∈ digits, c.isDigit = true)
    (htake : rest.takeWhile Char.isDigit = []) (hdrop : rest.dropWhile Char.isDigit = rest) :
    (digits ++ rest).takeWhile Char.isDigit = digits ∧
      (digits ++ rest).dropWhile Char.isDigit = rest := by
  rw [List.takeWhile_append_of_pos h, List.dropWhile_append_of_pos h, htake, hdrop, List.append_nil]
  exact ⟨rfl, rfl⟩

theorem splitFraction_pointed (hfraction : ∀ c ∈ fraction, c.isDigit = true)
    (h : exponent? tail = some power) :
    splitFraction (pointed fraction ++ tail) = (fraction, tail) := by
  obtain ⟨htake, hdrop⟩ := takeWhile_isDigit_tail h
  cases fraction with
  | nil => rcases eq_nil_or_of_exponent? h with rfl | ⟨c, rest, rfl, rfl | rfl⟩ <;> rfl
  | cons c rest =>
      obtain ⟨hdigits, hrest⟩ := takeWhile_isDigit_append hfraction htake hdrop
      exact Prod.ext hdigits hrest

/-- The rest of a text after its digits does not start with one. -/
theorem takeWhile_isDigit_pointed (fraction : List Char) (h : exponent? tail = some power) :
    (pointed fraction ++ tail).takeWhile Char.isDigit = [] ∧
      (pointed fraction ++ tail).dropWhile Char.isDigit = pointed fraction ++ tail := by
  cases fraction with
  | nil => exact takeWhile_isDigit_tail h
  | cons c rest => exact ⟨rfl, rfl⟩

/-- Reading yields the number that a text denotes, with the sign before it. -/
theorem Denotes.exists_read? (h : Denotes text q) (negative : Bool) :
    ∃ digits power,
      read? (if negative then '-' :: text else text) = some (negative, digits, power) ∧
        (digits : ℚ) * 10 ^ power = q := by
  obtain ⟨whole, fraction, tail, power, h⟩ := h
  refine ⟨_, _, ?_, h.value⟩
  obtain ⟨hwhole, hfraction⟩ := List.forall_mem_append.1 h.digits
  have hsplit : splitSign (if negative then '-' :: text else text) = (negative, text) := by
    obtain ⟨c, rest, rfl⟩ := List.exists_cons_of_ne_nil h.ne_nil
    rw [h.eq]
    exact splitSign_of_isDigit (hwhole c List.mem_cons_self) negative
  obtain ⟨htake, hdrop⟩ := takeWhile_isDigit_pointed fraction h.exponent
  obtain ⟨htake, hdrop⟩ := takeWhile_isDigit_append hwhole htake hdrop
  have hnatural := natural?_eq_ofDigitChars (by simp [h.ne_nil]) h.digits
  simp only [read?, hsplit]
  rw [h.eq, htake, hdrop, splitFraction_pointed hfraction h.exponent]
  simp only [hnatural, h.exponent, Int.ofNat_eq_natCast]

theorem Denotes.exists_mem (h : Denotes text q) : ∃ c ∈ text, c.isDigit = false ∧ c ≠ '-' := by
  obtain ⟨whole, fraction, tail, power, h⟩ := h
  rw [h.eq]
  rcases h.marked with hfraction | htail
  · exact ⟨'.', by simp [pointed, hfraction], rfl, by decide⟩
  · rcases eq_nil_or_of_exponent? h.exponent with rfl | ⟨c, rest, rfl, rfl | rfl⟩
    · exact absurd rfl htail
    · exact ⟨'e', by simp, rfl, by decide⟩
    · exact ⟨'E', by simp, rfl, by decide⟩

end Decimal

/-! ### Texts in the layout of YAML -/

namespace Layout

open Decimal

/-- The text of an exponent. -/
def exponentText (e : ℤ) : List Char :=
  'e' :: (if e < 0 then '-' :: Nat.toDigits 10 e.natAbs else Nat.toDigits 10 e.natAbs)

theorem exponent?_exponentText (e : ℤ) : exponent? (exponentText e) = some e := by
  have hdigits : ∀ c ∈ Nat.toDigits 10 e.natAbs, c.isDigit = true := fun c hc =>
    Nat.isDigit_of_mem_toDigits (by norm_num) (by norm_num) hc
  have hnatural := natural?_eq_ofDigitChars Nat.toDigits_ne_nil hdigits
  have hsplit : splitSign (if e < 0 then '-' :: Nat.toDigits 10 e.natAbs
      else Nat.toDigits 10 e.natAbs) = (decide (e < 0), Nat.toDigits 10 e.natAbs) := by
    obtain ⟨c, rest, heq⟩ : ∃ c rest, Nat.toDigits 10 e.natAbs = c :: rest :=
      List.exists_cons_of_ne_nil Nat.toDigits_ne_nil
    have hc : c.isDigit = true := hdigits c (heq ▸ List.mem_cons_self)
    rw [heq]
    simpa using splitSign_of_isDigit hc (decide (e < 0))
  rw [exponentText, exponent?, if_pos (by simp)]
  simp only [hsplit, hnatural, Nat.ofDigitChars_ten_toDigits, Option.map_some]
  by_cases h : e < 0
  · simp only [h, decide_true, if_true, Int.ofNat_eq_natCast]
    congr 1
    omega
  · simp only [h, decide_false, Bool.false_eq_true, if_false, Int.ofNat_eq_natCast]
    congr 1
    omega

variable {d : Decimal}

theorem pointed_of_ne_nil {fraction : List Char} (h : fraction ≠ []) :
    pointed fraction = '.' :: fraction := by
  rw [pointed, if_neg (by simpa using h)]

/-- The digits of a decimal, scaled so that the first of them is at the decimal's power of ten. -/
theorem value_of_ofDigitChars {digits : List Char} {power : ℤ} (zeros : ℕ)
    (hdigits : Nat.ofDigitChars 10 digits 0 = 10 ^ zeros * d.digits)
    (hpower : zeros + power = d.exponent + 1 - d.text.length) :
    (Nat.ofDigitChars 10 digits 0 : ℚ) * 10 ^ power = d.value := by
  rw [hdigits, value, ← hpower, zpow_add₀ (by norm_num), zpow_natCast]
  push_cast
  ring

/-- A number below one: the digits follow zeros. -/
theorem isNumeral_small (h : d.exponent < 0) :
    IsNumeral ('0' :: '.' :: (List.replicate (-d.exponent - 1).toNat '0' ++ d.text)) ['0']
      (List.replicate (-d.exponent - 1).toNat '0' ++ d.text) [] 0 d.value where
  eq := by
    rw [pointed_of_ne_nil (by simp [text_ne_nil]), List.append_nil, List.singleton_append]
  ne_nil := by simp
  digits := by
    simp only [List.mem_append, List.mem_singleton, List.mem_replicate]
    rintro c (rfl | ⟨-, rfl⟩ | hc)
    · rfl
    · rfl
    · exact isDigit_of_mem_text hc
  exponent := rfl
  marked := .inl (by simp [text_ne_nil])
  value := by
    refine value_of_ofDigitChars 0 ?_ ?_
    · have hzero : Nat.ofDigitChars 10 ['0'] 0 = 0 := rfl
      rw [Nat.ofDigitChars_append, Nat.ofDigitChars_append, Nat.ofDigitChars_replicate_zero, hzero,
        Nat.mul_zero, ofDigitChars_text, Nat.pow_zero, Nat.one_mul]
    · rw [List.length_append, List.length_replicate]
      push_cast
      omega

/-- An integer: zeros follow the digits. -/
theorem isNumeral_whole (h : d.text.length ≤ d.exponent.toNat + 1) (hexponent : 0 ≤ d.exponent) :
    IsNumeral (d.text ++ List.replicate (d.exponent.toNat + 1 - d.text.length) '0' ++ ['.', '0'])
      (d.text ++ List.replicate (d.exponent.toNat + 1 - d.text.length) '0') ['0'] [] 0 d.value where
  eq := rfl
  ne_nil := by simp [text_ne_nil]
  digits := by
    simp only [List.mem_append, List.mem_singleton, List.mem_replicate]
    rintro c ((hc | ⟨-, rfl⟩) | rfl)
    · exact isDigit_of_mem_text hc
    · rfl
    · rfl
  exponent := rfl
  marked := .inl (by simp)
  value := by
    refine value_of_ofDigitChars (d.exponent.toNat + 1 - d.text.length + 1) ?_ ?_
    · rw [Nat.ofDigitChars_append, Nat.ofDigitChars_append, ofDigitChars_text,
        Nat.ofDigitChars_replicate_zero, Nat.ofDigitChars_cons, Nat.ofDigitChars_nil, Nat.sub_self,
        Nat.add_zero, Nat.pow_succ', Nat.mul_assoc]
    · rw [List.length_singleton]
      push_cast
      omega

/-- A number with digits on both sides of the point. -/
theorem isNumeral_split (h : d.exponent.toNat + 1 < d.text.length) (hexponent : 0 ≤ d.exponent) :
    IsNumeral (d.text.take (d.exponent.toNat + 1) ++ '.' :: d.text.drop (d.exponent.toNat + 1))
      (d.text.take (d.exponent.toNat + 1)) (d.text.drop (d.exponent.toNat + 1)) [] 0 d.value where
  eq := by
    rw [pointed_of_ne_nil (by simpa using h), List.append_nil]
  ne_nil := by simp [text_ne_nil]
  digits := by
    rw [List.take_append_drop]
    exact fun c => isDigit_of_mem_text
  exponent := rfl
  marked := .inl (by simpa using h)
  value := by
    refine value_of_ofDigitChars 0 ?_ ?_
    · rw [List.take_append_drop, ofDigitChars_text, Nat.pow_zero, Nat.one_mul]
    · rw [List.length_drop]
      omega

/-- A number with an exponent. -/
theorem isNumeral_scientific (d : Decimal) :
    IsNumeral (d.text.take 1 ++ (pointed (d.text.drop 1) ++ exponentText d.exponent))
      (d.text.take 1) (d.text.drop 1) (exponentText d.exponent) d.exponent d.value where
  eq := rfl
  ne_nil := by simp [text_ne_nil]
  digits := by
    rw [List.take_append_drop]
    exact fun c => isDigit_of_mem_text
  exponent := exponent?_exponentText d.exponent
  marked := .inr (by simp [exponentText])
  value := by
    have hlength : 0 < d.text.length := List.length_pos_iff.2 d.text_ne_nil
    refine value_of_ofDigitChars 0 ?_ ?_
    · rw [List.take_append_drop, ofDigitChars_text, Nat.pow_zero, Nat.one_mul]
    · rw [List.length_drop]
      omega

/-- The text of a decimal denotes it, in each of its four shapes. -/
theorem denotes_decimal (d : Decimal) : Denotes (yaml.decimal d).toList d.value := by
  by_cases hpositional : -5 ≤ d.exponent ∧ d.exponent ≤ 15
  · rcases lt_or_ge d.exponent 0 with hexponent | hexponent
    · have htext : (yaml.decimal d).toList =
          '0' :: '.' :: (List.replicate (-d.exponent - 1).toNat '0' ++ d.text) := by
        simp [decimal, yaml, hpositional, hexponent]
      exact ⟨_, _, _, _, htext ▸ isNumeral_small hexponent⟩
    · rcases le_or_gt d.text.length (d.exponent.toNat + 1) with hlength | hlength
      · have htext : (yaml.decimal d).toList = d.text ++
            List.replicate (d.exponent.toNat + 1 - d.text.length) '0' ++ ['.', '0'] := by
          simp [decimal, yaml, hpositional, not_lt.2 hexponent, hlength]
        exact ⟨_, _, _, _, htext ▸ isNumeral_whole hlength hexponent⟩
      · have htext : (yaml.decimal d).toList = d.text.take (d.exponent.toNat + 1) ++
            '.' :: d.text.drop (d.exponent.toNat + 1) := by
          simp [decimal, yaml, hpositional, not_lt.2 hexponent, not_le.2 hlength]
        exact ⟨_, _, _, _, htext ▸ isNumeral_split hlength hexponent⟩
  · have htext : (yaml.decimal d).toList = d.text.take 1 ++
        (pointed (d.text.drop 1) ++ exponentText d.exponent) := by
      rw [decimal, if_neg (by
        rw [Bool.and_eq_true, decide_eq_true_eq, decide_eq_true_eq]
        exact hpositional)]
      rcases lt_or_ge d.exponent 0 with hexponent | hexponent
      · simp [hexponent, pointed, exponentText, Nat.repr_eq_ofList_toDigits]
      · simp [yaml, not_lt.2 hexponent, pointed, exponentText, Nat.repr_eq_ofList_toDigits]
    exact ⟨_, _, _, _, htext ▸ isNumeral_scientific d⟩

theorem denotes_zero : Denotes ['0', '.', '0'] 0 := by
  refine ⟨['0'], ['0'], [], 0, rfl, by simp, ?_, rfl, .inl (by simp),
    by simp [Nat.ofDigitChars_cons]⟩
  intro c hc
  obtain rfl : c = '0' := by simpa using hc
  rfl

/-- The text of a number without its sign. -/
def magnitudeText (x : Binary64) : List Char :=
  if x.isZero then ['0', '.', '0'] else (yaml.decimal x.shortest).toList

/-- The magnitude that is written. -/
def written (x : Binary64) : ℚ := if x.isZero then 0 else x.shortest.value

theorem toList_binary64 (x : Binary64) : (yaml.binary64 x).toList =
    if x.negative then '-' :: magnitudeText x else magnitudeText x := by
  unfold binary64 magnitudeText
  cases x.negative <;> cases x.isZero <;> simp [yaml]

theorem denotes_magnitudeText (x : Binary64) : Denotes (magnitudeText x) (written x) := by
  unfold magnitudeText written
  split
  · exact denotes_zero
  · exact denotes_decimal x.shortest

/-- The text of a number reads as its sign and the magnitude that is written. -/
theorem exists_read?_yaml (x : Binary64) :
    ∃ digits power, read? (yaml.binary64 x).toList = some (x.negative, digits, power) ∧
      (digits : ℚ) * 10 ^ power = written x := by
  rw [toList_binary64]
  exact (denotes_magnitudeText x).exists_read? x.negative

theorem written_eq_zero_iff {x : Binary64} : written x = 0 ↔ x.isZero = true := by
  unfold written
  constructor
  · intro h
    by_contra hx
    rw [if_neg hx] at h
    have hpos := (Binary64.roundsTo_shortest (Bool.eq_false_of_not_eq_true hx)).1
    exact (value_pos hpos).ne' h
  · intro hx
    exact if_pos hx

theorem rank_eq_of_written_eq {x y : Binary64} (h : written x = written y) : x.rank = y.rank := by
  have hzero : x.isZero = true ↔ y.isZero = true := by
    rw [← written_eq_zero_iff, h, written_eq_zero_iff]
  by_cases hx : x.isZero = true
  · have hy := hzero.1 hx
    rw [Binary64.isZero, beq_iff_eq] at hx hy
    exact Fin.ext (hx.trans hy.symm)
  · have hy : ¬y.isZero = true := mt hzero.2 hx
    have hxrounds := (Binary64.roundsTo_shortest (Bool.eq_false_of_not_eq_true hx)).2
    have hyrounds := (Binary64.roundsTo_shortest (Bool.eq_false_of_not_eq_true hy)).2
    rw [written, written, if_neg hx, if_neg hy] at h
    exact Fin.ext ((h ▸ hxrounds).rank_eq hyrounds)

/-- The text of a number has a point or an exponent. -/
theorem exists_mem_yaml (x : Binary64) :
    ∃ c ∈ (yaml.binary64 x).toList, c.isDigit = false ∧ c ≠ '-' := by
  obtain ⟨c, hc, hnot⟩ := (denotes_magnitudeText x).exists_mem
  refine ⟨c, ?_, hnot⟩
  rw [toList_binary64]
  split
  · exact List.mem_cons_of_mem _ hc
  · exact hc

/-- Different numbers have different texts. -/
theorem yaml_injective : Function.Injective yaml.binary64 := by
  intro x y h
  obtain ⟨digits, power, hread, hx⟩ := exists_read?_yaml x
  obtain ⟨digits', power', hread', hy⟩ := exists_read?_yaml y
  rw [h, hread', Option.some.injEq, Prod.mk.injEq, Prod.mk.injEq] at hread
  obtain ⟨hnegative, rfl, rfl⟩ := hread
  have hrank := rank_eq_of_written_eq (hx.symm.trans hy)
  obtain ⟨_, _⟩ := x
  obtain ⟨_, _⟩ := y
  simp_all

end Layout

end SpecLint
