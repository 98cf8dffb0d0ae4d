import Mathlib.Algebra.Order.Floor.Semifield
import Mathlib.Data.Rat.Floor
import SpecLint.Proofs.Number.Magnitude

/-!
Shortest decimals in the rational numbers. The power of ten of the first digit is found from the
numbers of bits (`leadingPower_spec`), seventeen digits always suffice, and so the shortest decimal
is a positive number that rounds to the magnitude (`roundsTo_shortest`).
-/

namespace SpecLint

/-! ### Powers of two and of ten -/

namespace Binary64

/-- Powers are compared by the exponents of one comparison of the bases' powers. -/
theorem pow_le_pow_of_base {a b m n p q : ℕ} (hb : 0 < b) (hn : n ≠ 0) (hbase : a ^ n ≤ b ^ m)
    (h : m * p ≤ n * q) : a ^ p ≤ b ^ q := by
  refine (Nat.pow_le_pow_iff_left hn).1 ?_
  calc (a ^ p) ^ n = (a ^ n) ^ p := by rw [← pow_mul, ← pow_mul, Nat.mul_comm]
    _ ≤ (b ^ m) ^ p := Nat.pow_le_pow_left hbase p
    _ = b ^ (m * p) := (pow_mul _ _ _).symm
    _ ≤ b ^ (n * q) := Nat.pow_le_pow_right hb h
    _ = (b ^ q) ^ n := by rw [← pow_mul, Nat.mul_comm]

/-- A power of two is at most a power of ten if it is so by two approximations of the logarithm, one
too large and one too small. -/
theorem two_zpow_le_ten_zpow {p q : ℤ} (h : 28 * p ≤ 93 * q) (h' : 59 * p ≤ 196 * q) :
    (2 : ℚ) ^ p ≤ 10 ^ q := by
  have hlarge : 2 ^ 93 ≤ 10 ^ 28 := by norm_num
  have hsmall : 10 ^ 59 ≤ 2 ^ 196 := by norm_num
  rcases le_total 0 q with hq | hq
  · rcases le_total 0 p with hp | hp
    · obtain ⟨a, rfl⟩ := Int.eq_ofNat_of_zero_le hp
      obtain ⟨b, rfl⟩ := Int.eq_ofNat_of_zero_le hq
      rw [zpow_natCast, zpow_natCast]
      exact_mod_cast pow_le_pow_of_base (by norm_num) (by norm_num) hlarge (by omega)
    · exact (zpow_le_one_of_nonpos₀ (by norm_num) hp).trans (one_le_zpow₀ (by norm_num) hq)
  · obtain ⟨a, ha⟩ := Int.eq_ofNat_of_zero_le (neg_nonneg.2 (show p ≤ 0 by omega))
    obtain ⟨b, hb⟩ := Int.eq_ofNat_of_zero_le (neg_nonneg.2 hq)
    obtain rfl : p = -a := by omega
    obtain rfl : q = -b := by omega
    rw [zpow_neg, zpow_neg, zpow_natCast, zpow_natCast]
    refine inv_anti₀ (by positivity) ?_
    exact_mod_cast pow_le_pow_of_base (by norm_num) (by norm_num) hsmall (by omega)

theorem ten_zpow_le_two_zpow {p q : ℤ} (h : 93 * q ≤ 28 * p) (h' : 196 * q ≤ 59 * p) :
    (10 : ℚ) ^ q ≤ 2 ^ p := by
  have hinv : (2 : ℚ) ^ (-p) ≤ 10 ^ (-q) := two_zpow_le_ten_zpow (by omega) (by omega)
  rw [zpow_neg, zpow_neg] at hinv
  exact (inv_le_inv₀ (by positivity) (by positivity)).1 hinv

/-- A power as a quotient of powers with natural exponents. -/
theorem zpow_eq_div {a : ℚ} (k : ℤ) : a ^ k = a ^ k.toNat / a ^ (-k).toNat := by
  rcases le_total 0 k with h | h
  · obtain ⟨n, rfl⟩ := Int.eq_ofNat_of_zero_le h
    simp
  · obtain ⟨n, hn⟩ := Int.eq_ofNat_of_zero_le (neg_nonneg.2 h)
    obtain rfl : k = -n := by omega
    simp

/-! ### The first digit -/

variable {num den : ℕ}

theorem ten_zpow_le_div_iff (hden : 0 < den) (k : ℤ) :
    den * Nat.pow 10 k.toNat ≤ num * Nat.pow 10 (-k).toNat ↔ (10 : ℚ) ^ k ≤ num / den := by
  have hden : (0 : ℚ) < den := by exact_mod_cast hden
  rw [zpow_eq_div, div_le_div_iff₀ (by positivity) hden, Nat.mul_comm]
  norm_cast

theorem two_zpow_lt_div (hnum : 0 < num) (hden : 0 < den) :
    (2 : ℚ) ^ ((num.log2 : ℤ) - den.log2 - 1) < num / den := by
  have hlow : (2 : ℚ) ^ num.log2 ≤ num := by exact_mod_cast Nat.log2_self_le hnum.ne'
  have hhigh : (den : ℚ) < 2 ^ (den.log2 + 1) := by exact_mod_cast Nat.lt_log2_self
  have hdenpos : (0 : ℚ) < den := by exact_mod_cast hden
  calc (2 : ℚ) ^ ((num.log2 : ℤ) - den.log2 - 1) = 2 ^ num.log2 / 2 ^ (den.log2 + 1) := by
        rw [sub_sub, zpow_sub₀ two_ne_zero]
        norm_cast
    _ < 2 ^ num.log2 / den := div_lt_div_of_pos_left (by positivity) hdenpos hhigh
    _ ≤ num / den := by gcongr

theorem div_lt_two_zpow (hden : 0 < den) :
    (num : ℚ) / den < 2 ^ ((num.log2 : ℤ) - den.log2 + 1) := by
  have hlow : (2 : ℚ) ^ den.log2 ≤ den := by exact_mod_cast Nat.log2_self_le hden.ne'
  have hhigh : (num : ℚ) < 2 ^ (num.log2 + 1) := by exact_mod_cast Nat.lt_log2_self
  have hdenpos : (0 : ℚ) < den := by exact_mod_cast hden
  calc (num : ℚ) / den < 2 ^ (num.log2 + 1) / den := by gcongr
    _ ≤ 2 ^ (num.log2 + 1) / 2 ^ den.log2 := by gcongr
    _ = 2 ^ ((num.log2 : ℤ) - den.log2 + 1) := by
        rw [sub_add_eq_add_sub, zpow_sub₀ two_ne_zero]
        norm_cast

/-- The estimate of the power of ten of the first digit is at most two off for quotients of the size
that the format has. -/
theorem leadingPower_spec (hnum : 0 < num) (hden : 0 < den)
    (hbits : |(num.log2 : ℤ) - den.log2| ≤ 1200) :
    (10 : ℚ) ^ leadingPower num den ≤ num / den ∧
      (num : ℚ) / den < 10 ^ (leadingPower num den + 1) := by
  obtain ⟨hleast, hgreatest⟩ := abs_le.1 hbits
  have hlow := two_zpow_lt_div hnum hden
  have hhigh := @div_lt_two_zpow num _ hden
  unfold leadingPower
  simp only [Int.ofNat_eq_natCast, decide_eq_true_eq, ten_zpow_le_div_iff hden]
  generalize hb : (num.log2 : ℤ) - den.log2 = bits at *
  generalize hk : bits * 30103 / 100000 = k
  -- 0.30103 lies between 59 / 196 and 28 / 93, so for so few bits its error stays below one power
  have htop : (num : ℚ) / den < 10 ^ (k + 1 + 1) :=
    hhigh.trans_le (two_zpow_le_ten_zpow (by omega) (by omega))
  have hbottom : (10 : ℚ) ^ (k - 2) ≤ num / den :=
    (ten_zpow_le_two_zpow (by omega) (by omega)).trans hlow.le
  by_cases h₁ : (10 : ℚ) ^ (k + 1) ≤ num / den
  · rw [if_pos h₁]
    exact ⟨h₁, htop⟩
  by_cases h₂ : (10 : ℚ) ^ k ≤ num / den
  · rw [if_neg h₁, if_pos h₂]
    exact ⟨h₂, not_le.1 h₁⟩
  by_cases h₃ : (10 : ℚ) ^ (k - 1) ≤ num / den
  · rw [if_neg h₁, if_neg h₂, if_pos h₃, sub_add_cancel]
    exact ⟨h₃, not_le.1 h₂⟩
  · rw [if_neg h₁, if_neg h₂, if_neg h₃, show k - 2 + 1 = k - 1 by ring]
    exact ⟨hbottom, not_le.1 h₃⟩

theorem exponent_bounds (x : Binary64) : -1074 ≤ x.exponent ∧ x.exponent ≤ 971 := by
  have hrank := x.rank.isLt
  rw [exponent_eq]
  unfold exponentAt binade
  split <;> omega

theorem magnitude_bounds {x : Binary64} (hx : x.isZero = false) :
    (2 : ℚ) ^ (-1074 : ℤ) ≤ x.magnitude ∧ x.magnitude < 2 ^ (1024 : ℤ) := by
  obtain ⟨hleast, hgreatest⟩ := x.exponent_bounds
  have hpos : (1 : ℚ) ≤ x.significand := by exact_mod_cast significand_pos hx
  have hlt : (x.significand : ℚ) < 2 ^ (53 : ℤ) := by
    exact_mod_cast significandAt_lt x.rank
  constructor
  · calc (2 : ℚ) ^ (-1074 : ℤ) ≤ 2 ^ x.exponent := zpow_le_zpow_right₀ (by norm_num) hleast
      _ = 1 * 2 ^ x.exponent := (one_mul _).symm
      _ ≤ x.significand * 2 ^ x.exponent := by gcongr
  · calc (x.significand : ℚ) * 2 ^ x.exponent < 2 ^ (53 : ℤ) * 2 ^ x.exponent := by gcongr
      _ = 2 ^ (53 + x.exponent) := (zpow_add₀ two_ne_zero _ _).symm
      _ ≤ 2 ^ (1024 : ℤ) := zpow_le_zpow_right₀ (by norm_num) (by omega)

theorem interval_value_pos {x : Binary64} (hx : x.isZero = false) : 0 < x.interval.value := by
  have hsig := significand_pos hx
  simp only [interval, Nat.shiftLeft_eq]
  positivity

/-- The power of ten of the first digit of the shortest decimal, unless it is rounded up to the next
power of ten. -/
def lead (x : Binary64) : ℤ := leadingPower x.interval.value x.interval.denominator

theorem lead_spec {x : Binary64} (hx : x.isZero = false) :
    (10 : ℚ) ^ x.lead ≤ x.magnitude ∧ x.magnitude < 10 ^ (x.lead + 1) := by
  have hvalue := interval_value_pos hx
  have hden := x.interval_denominator_pos
  have hlow := two_zpow_lt_div hvalue hden
  have hhigh := @div_lt_two_zpow x.interval.value _ hden
  rw [interval_value] at hlow hhigh
  obtain ⟨hleast, hgreatest⟩ := magnitude_bounds hx
  have habove := (zpow_lt_zpow_iff_right₀ one_lt_two).1 (hlow.trans hgreatest)
  have hbelow := (zpow_lt_zpow_iff_right₀ one_lt_two).1 (hleast.trans_lt hhigh)
  have hspec := leadingPower_spec hvalue hden (abs_le.2 ⟨by omega, by omega⟩)
  rwa [interval_value] at hspec

end Binary64

/-! ### Decimals -/

namespace Decimal

/-- The decimal as a rational number. -/
def value (d : Decimal) : ℚ := d.digits * 10 ^ (d.exponent + 1 - d.text.length)

theorem value_pos {d : Decimal} (h : 0 < d.digits) : 0 < d.value := by
  unfold value
  positivity

theorem length_toDigits_eq {digits count : ℕ} (hlow : 10 ^ count ≤ digits)
    (hhigh : digits < 10 ^ (count + 1)) : (Nat.toDigits 10 digits).length = count + 1 := by
  have hle := (Nat.length_toDigits_le_iff (by norm_num) count.succ_pos).2 hhigh
  rcases Nat.eq_zero_or_pos count with rfl | hcount
  · exact le_antisymm hle Nat.length_toDigits_pos
  · have hnot := mt (Nat.length_toDigits_le_iff (by norm_num : 1 < 10) hcount).1 (not_lt.2 hlow)
    omega

theorem value_dropZeros (fuel digits : ℕ) (exponent : ℤ) :
    value ⟨dropZeros fuel digits, exponent⟩ = value ⟨digits, exponent⟩ := by
  induction fuel generalizing digits with
  | zero => rfl
  | succ fuel ih =>
      rw [dropZeros]
      split
      · rename_i h
        obtain ⟨hne, hmod⟩ : digits ≠ 0 ∧ digits % 10 = 0 := by simpa using h
        have hten : (digits : ℚ) = (digits / 10 : ℕ) * 10 := by
          exact_mod_cast (Nat.div_mul_cancel (Nat.dvd_of_mod_eq_zero hmod)).symm
        have hdigits := Nat.toDigits_of_base_le (by norm_num) (by omega : 10 ≤ digits)
        rw [ih, value, value, text, text, hdigits, List.length_append, List.length_singleton, hten,
          mul_assoc, ← zpow_one_add₀ (by norm_num)]
        congr 2
        push_cast
        ring
      · rfl

theorem dropZeros_pos (fuel : ℕ) {digits : ℕ} (h : 0 < digits) : 0 < dropZeros fuel digits := by
  induction fuel generalizing digits with
  | zero => exact h
  | succ fuel ih =>
      rw [dropZeros]
      split
      · rename_i hdrop
        have hmod : digits ≠ 0 ∧ digits % 10 = 0 := by simpa using hdrop
        exact ih (by omega)
      · exact h

end Decimal

/-! ### The shortest decimal -/

namespace Binary64

/-- The power of ten of the last of some digits, the first of which stands at `lead`. -/
def unit (x : Binary64) (count : ℕ) : ℤ := x.lead - (Int.ofNat count - 1)

/-- The number of units of the last digit in the magnitude, rounded down. -/
def gridFloor (x : Binary64) (count : ℕ) : ℕ :=
  x.interval.value * Nat.pow 10 (-x.unit count).toNat /
    (x.interval.denominator * Nat.pow 10 (x.unit count).toNat)

theorem gridFloor_eq (x : Binary64) (count : ℕ) :
    x.gridFloor count = ⌊x.magnitude / 10 ^ x.unit count⌋₊ := by
  rw [gridFloor, ← Nat.floor_div_eq_div (K := ℚ), ← interval_value, zpow_eq_div (x.unit count)]
  congr 1
  push_cast
  rw [Nat.pow_eq, Nat.pow_eq]
  push_cast
  rw [div_div_div_eq]

theorem gridFloor_bounds {x : Binary64} (hx : x.isZero = false) (count : ℕ) :
    10 ^ count ≤ x.gridFloor (count + 1) ∧ x.gridFloor (count + 1) < 10 ^ (count + 1) := by
  obtain ⟨hlow, hhigh⟩ := lead_spec hx
  have hunit : (0 : ℚ) < 10 ^ x.unit (count + 1) := by positivity
  have hlead : x.lead = count + x.unit (count + 1) := by
    simp only [unit, Int.ofNat_eq_natCast]
    omega
  rw [hlead, zpow_add₀ (by norm_num), zpow_natCast] at hlow
  rw [hlead, add_right_comm, zpow_add₀ (by norm_num), ← Nat.cast_succ, zpow_natCast] at hhigh
  rw [gridFloor_eq]
  constructor
  · refine Nat.le_floor ?_
    rw [le_div_iff₀ hunit]
    exact_mod_cast hlow
  · refine (Nat.floor_lt (div_nonneg (magnitude_pos hx).le hunit.le)).2 ?_
    rw [div_lt_iff₀ hunit]
    exact_mod_cast hhigh

/-- Whether a number on the grid reads back as the magnitude. -/
def readsBack (x : Binary64) (count digits : ℕ) : Bool :=
  x.interval.holds (digits * Nat.pow 10 (x.unit count).toNat) (Nat.pow 10 (-x.unit count).toNat)

theorem readsBack_iff {x : Binary64} (hx : x.isZero = false) {count digits : ℕ} :
    x.readsBack count digits = true ↔ RoundsTo (digits * 10 ^ x.unit count) x.rank := by
  have hpos : 0 < Nat.pow 10 (-x.unit count).toNat := Nat.pow_pos (by norm_num)
  rw [readsBack, holds_iff hx hpos, zpow_eq_div (x.unit count), mul_div_assoc']
  push_cast
  rw [Nat.pow_eq, Nat.pow_eq]
  push_cast
  rfl

/-- The decimal with the digits of a number on the grid. Rounded up to a power of ten, the number
has one digit more than the others. -/
def pick (x : Binary64) (count digits : ℕ) : Decimal :=
  ⟨Decimal.dropZeros 20 digits, if digits == Nat.pow 10 count then x.lead + 1 else x.lead⟩

theorem value_pick {x : Binary64} {count digits : ℕ} (hlow : 10 ^ count ≤ digits)
    (hhigh : digits ≤ 10 ^ (count + 1)) :
    (x.pick (count + 1) digits).value = digits * 10 ^ x.unit (count + 1) := by
  rw [pick, Decimal.value_dropZeros, Decimal.value, Decimal.text]
  congr 2
  simp only [unit, Int.ofNat_eq_natCast]
  rcases hhigh.lt_or_eq with hlt | rfl
  · rw [Decimal.length_toDigits_eq hlow hlt, if_neg (by simpa using hlt.ne)]
    push_cast
    ring
  · have hlt : 10 ^ (count + 1) < 10 ^ (count + 1 + 1) := Nat.pow_lt_pow_succ (by norm_num)
    rw [Decimal.length_toDigits_eq le_rfl hlt, if_pos (by simp)]
    push_cast
    ring

/-- Of the two neighbours on the grid one that reads back is picked, if there is one. -/
theorem exists_of_decimal?_eq_some {x : Binary64} {count : ℕ} {d : Decimal}
    (h : x.interval.decimal? x.lead count = some d) :
    ∃ digits, (digits = x.gridFloor count ∨ digits = x.gridFloor count + 1) ∧
      x.readsBack count digits = true ∧ d = x.pick count digits := by
  simp only [Interval.decimal?] at h
  split at h
  · rename_i hlower hupper
    split at h
    · cases h
      exact ⟨x.gridFloor count, .inl rfl, ((Bool.and_eq_true _ _).mp hlower).2, rfl⟩
    · cases h
      exact ⟨x.gridFloor count + 1, .inr rfl, hupper, rfl⟩
  · rename_i hlower hupper
    cases h
    exact ⟨x.gridFloor count, .inl rfl, ((Bool.and_eq_true _ _).mp hlower).2, rfl⟩
  · rename_i hlower hupper
    cases h
    exact ⟨x.gridFloor count + 1, .inr rfl, hupper, rfl⟩
  · cases h

theorem decimal?_isSome {x : Binary64} {count digits : ℕ}
    (hdigits : digits = x.gridFloor count ∧ digits ≠ 0 ∨ digits = x.gridFloor count + 1)
    (h : x.readsBack count digits = true) : (x.interval.decimal? x.lead count).isSome = true := by
  simp only [Interval.decimal?]
  split
  · split <;> rfl
  · rfl
  · rfl
  · rename_i hlower hupper
    rcases hdigits with ⟨rfl, hne⟩ | rfl
    · change (x.gridFloor count != 0 && x.readsBack count (x.gridFloor count)) = false at hlower
      simp [hne, h] at hlower
    · exact absurd (h.symm.trans hupper) (by decide)

/-- Of the two neighbours on the grid of seventeen digits the nearer one reads back: it is at most
half a unit away, and that is less than what the format rounds away. -/
theorem exists_readsBack {x : Binary64} (hx : x.isZero = false) :
    ∃ digits, (digits = x.gridFloor 17 ∨ digits = x.gridFloor 17 + 1) ∧
      x.readsBack 17 digits = true := by
  have hunit : (0 : ℚ) < 10 ^ x.unit 17 := by positivity
  have hshare : (10 : ℚ) ^ x.unit 17 / 2 < x.magnitude / 2 ^ 54 := by
    have hlead : x.lead = (16 : ℕ) + x.unit 17 := by
      simp only [unit, Int.ofNat_eq_natCast]
      omega
    have hlow := (lead_spec hx).1
    rw [hlead, zpow_add₀ (by norm_num), zpow_natCast] at hlow
    rw [div_lt_div_iff₀ two_pos (by positivity)]
    linarith
  obtain ⟨hfloor, hnext⟩ : (x.gridFloor 17 : ℚ) * 10 ^ x.unit 17 ≤ x.magnitude ∧
      x.magnitude < (x.gridFloor 17 + 1) * 10 ^ x.unit 17 := by
    rw [gridFloor_eq, ← le_div_iff₀ hunit, ← div_lt_iff₀ hunit]
    exact ⟨Nat.floor_le (div_nonneg (magnitude_pos hx).le hunit.le), Nat.lt_floor_add_one _⟩
  rcases le_total (x.magnitude - x.gridFloor 17 * 10 ^ x.unit 17) (10 ^ x.unit 17 / 2) with h | h
  · refine ⟨_, .inl rfl, (readsBack_iff hx).2 (roundsTo_of_abs_lt (abs_lt.2 ?_))⟩
    constructor <;> linarith
  · refine ⟨_, .inr rfl, (readsBack_iff hx).2 (roundsTo_of_abs_lt (abs_lt.2 ?_))⟩
    push_cast
    constructor <;> linarith

/-- The search ends with a number on one of the grids that reads back. -/
theorem exists_shortest_eq_pick {x : Binary64} (hx : x.isZero = false) :
    ∃ count digits,
      (digits = x.gridFloor (count + 1) ∨ digits = x.gridFloor (count + 1) + 1) ∧
      x.readsBack (count + 1) digits = true ∧ x.shortest = x.pick (count + 1) digits := by
  have hfound : ((List.range 17).findSome? fun n =>
      x.interval.decimal? x.lead (n + 1)).isSome = true := by
    obtain ⟨digits, hdigits, hreads⟩ := exists_readsBack hx
    have hpos : x.gridFloor 17 ≠ 0 := by
      have hlow : 10 ^ 16 ≤ x.gridFloor 17 := (gridFloor_bounds hx 16).1
      omega
    refine List.findSome?_isSome_iff.2 ⟨16, List.mem_range.2 (by norm_num), ?_⟩
    exact decimal?_isSome (hdigits.imp_left fun h => ⟨h, h ▸ hpos⟩) hreads
  obtain ⟨d, hd⟩ := Option.isSome_iff_exists.1 hfound
  have hshortest : x.shortest = d := by
    rw [shortest]
    exact congrArg (Option.getD · _) hd
  obtain ⟨count, -, hcount⟩ := List.exists_of_findSome?_eq_some hd
  obtain ⟨digits, hdigits, hreads, rfl⟩ := exists_of_decimal?_eq_some hcount
  exact ⟨count, digits, hdigits, hreads, hshortest⟩

/-- The shortest decimal is positive and rounds to the magnitude. -/
theorem roundsTo_shortest {x : Binary64} (hx : x.isZero = false) :
    0 < x.shortest.digits ∧ RoundsTo x.shortest.value x.rank := by
  obtain ⟨count, digits, hdigits, hreads, hshortest⟩ := exists_shortest_eq_pick hx
  obtain ⟨hlow, hhigh⟩ := gridFloor_bounds hx count
  have hpos : 0 < 10 ^ count := by positivity
  rw [hshortest, value_pick (by omega) (by omega)]
  exact ⟨Decimal.dropZeros_pos _ (by omega), (readsBack_iff hx).1 hreads⟩

end Binary64

end SpecLint
