import Mathlib.Algebra.Order.Field.Power
import Mathlib.Data.Rat.Cast.Order
import Mathlib.Tactic.Linarith
import Mathlib.Tactic.Ring
import SpecLint.Number.Shortest

/-!
Magnitudes of floating point numbers in the rational numbers. The intervals of the numbers that
round to a magnitude touch but do not overlap, and of two that touch one lacks its ends. So no
number rounds to two magnitudes (`RoundsTo.rank_eq`).
-/

namespace SpecLint.Binary64

/-! ### Magnitudes by rank -/

/-- The significand of the magnitude of a rank. -/
def significandAt (rank : ℕ) : ℕ :=
  if rank < binade then rank else binade + rank % binade

/-- The exponent of the magnitude of a rank. -/
def exponentAt (rank : ℕ) : ℤ :=
  if rank < binade then -1074 else ((rank / binade : ℕ) : ℤ) - 1075

theorem significand_eq (x : Binary64) : x.significand = significandAt x.rank := rfl

theorem exponent_eq (x : Binary64) : x.exponent = exponentAt x.rank := rfl

/-- The even ranks have the even significands. -/
theorem significandAt_mod_two (rank : ℕ) : significandAt rank % 2 = rank % 2 := by
  unfold significandAt binade
  split <;> omega

theorem significandAt_lt (rank : ℕ) : significandAt rank < 2 * binade := by
  unfold significandAt binade
  split <;> omega

/-- Where the numbers start that round to the magnitude of a rank. Below a power of two the spacing
is half of that above, except below the least normal number. -/
def lowEnd (rank : ℕ) : ℚ :=
  if significandAt rank = binade ∧ -1074 < exponentAt rank then
    (significandAt rank - 1 / 4) * 2 ^ exponentAt rank
  else (significandAt rank - 1 / 2) * 2 ^ exponentAt rank

/-- Where the numbers end that round to the magnitude of a rank. -/
def highEnd (rank : ℕ) : ℚ :=
  (significandAt rank + 1 / 2) * 2 ^ exponentAt rank

theorem lowEnd_lt_highEnd (rank : ℕ) : lowEnd rank < highEnd rank := by
  have hpow : (0 : ℚ) < 2 ^ exponentAt rank := zpow_pos (by norm_num) _
  unfold lowEnd highEnd
  split
  · gcongr
    linarith
  · gcongr
    linarith

theorem significandAt_succ {rank : ℕ} (h : (rank + 1) % binade ≠ 0 ∨ rank < binade) :
    significandAt (rank + 1) = significandAt rank + 1 := by
  unfold significandAt binade at *
  split <;> split <;> omega

theorem exponentAt_succ {rank : ℕ} (h : (rank + 1) % binade ≠ 0 ∨ rank < binade) :
    exponentAt (rank + 1) = exponentAt rank := by
  unfold exponentAt binade at *
  split <;> split <;> omega

/-- From a binade to the next the exponent grows, and the significand starts again. -/
theorem at_binade_end {rank : ℕ} (h : (rank + 1) % binade = 0) (hrank : binade ≤ rank) :
    significandAt rank = 2 * binade - 1 ∧ significandAt (rank + 1) = binade ∧
      exponentAt (rank + 1) = exponentAt rank + 1 ∧ -1074 < exponentAt (rank + 1) := by
  unfold significandAt exponentAt binade at *
  rw [if_neg (by omega), if_neg (by omega), if_neg (by omega), if_neg (by omega)]
  omega

theorem at_not_boundary {rank : ℕ} (h : (rank + 1) % binade ≠ 0 ∨ rank < binade) :
    ¬(significandAt (rank + 1) = binade ∧ -1074 < exponentAt (rank + 1)) := by
  unfold significandAt exponentAt binade at *
  split <;> omega

/-- The numbers of the next rank start where these end. -/
theorem lowEnd_succ (rank : ℕ) : lowEnd (rank + 1) = highEnd rank := by
  unfold lowEnd highEnd
  by_cases h : (rank + 1) % binade ≠ 0 ∨ rank < binade
  · rw [if_neg (at_not_boundary h), significandAt_succ h, exponentAt_succ h]
    push_cast
    ring
  · obtain ⟨hend, hrank⟩ := not_or.1 h
    obtain ⟨hsig, hnext, hexp, hnormal⟩ := at_binade_end (not_not.1 hend) (not_lt.1 hrank)
    -- a quarter of the new spacing is a half of the old one
    rw [if_pos ⟨hnext, hnormal⟩, hsig, hnext, hexp, zpow_add_one₀ two_ne_zero, binade]
    norm_num
    ring

theorem lowEnd_strictMono : StrictMono lowEnd :=
  strictMono_nat_of_lt_succ fun rank => by
    rw [lowEnd_succ]
    exact lowEnd_lt_highEnd rank

theorem highEnd_le_lowEnd {rank other : ℕ} (h : rank < other) : highEnd rank ≤ lowEnd other := by
  rw [← lowEnd_succ]
  exact lowEnd_strictMono.monotone h

/-! ### Numbers that round to a magnitude -/

/-- The number is between the ends of a rank. Those of an even rank are among them. -/
def RoundsTo (q : ℚ) (rank : ℕ) : Prop :=
  if rank % 2 = 0 then lowEnd rank ≤ q ∧ q ≤ highEnd rank else lowEnd rank < q ∧ q < highEnd rank

theorem RoundsTo.le {q : ℚ} {rank : ℕ} (h : RoundsTo q rank) :
    lowEnd rank ≤ q ∧ q ≤ highEnd rank := by
  unfold RoundsTo at h
  split at h
  · exact h
  · exact ⟨h.1.le, h.2.le⟩

/-- What rounds to two ranks is the end where they touch, but of two neighbours one is odd. -/
theorem RoundsTo.not_of_lt {q : ℚ} {rank other : ℕ} (h : RoundsTo q rank) (hlt : rank < other) :
    ¬RoundsTo q other := by
  intro hother
  have hhigh := h.le.2
  have hlow := hother.le.1
  have hends := highEnd_le_lowEnd hlt
  have heq : highEnd rank = lowEnd other := le_antisymm hends (hlow.trans hhigh)
  have hnext : rank + 1 = other := lowEnd_strictMono.injective ((lowEnd_succ rank).trans heq)
  unfold RoundsTo at h hother
  by_cases heven : rank % 2 = 0
  · rw [if_neg (by omega)] at hother
    exact absurd (hother.1.trans_le hhigh) (not_lt.2 hends)
  · rw [if_neg heven] at h
    exact absurd (hlow.trans_lt h.2) (not_lt.2 hends)

/-- A number rounds to at most one magnitude. -/
theorem RoundsTo.rank_eq {q : ℚ} {rank other : ℕ} (h : RoundsTo q rank)
    (hother : RoundsTo q other) : rank = other := by
  rcases lt_trichotomy rank other with hlt | heq | hlt
  · exact absurd hother (h.not_of_lt hlt)
  · exact heq
  · exact absurd h (hother.not_of_lt hlt)

/-! ### The interval of a number -/

/-- A number that is scaled by a power of two, as a numerator over a denominator. -/
theorem shiftLeft_div_shiftLeft (n : ℕ) (e : ℤ) :
    ((n <<< e.toNat : ℕ) : ℚ) / ((1 <<< (-e).toNat : ℕ) : ℚ) = n * 2 ^ e := by
  rw [Nat.shiftLeft_eq, Nat.one_shiftLeft]
  rcases le_total 0 e with h | h
  · obtain ⟨k, rfl⟩ := Int.eq_ofNat_of_zero_le h
    simp
  · obtain ⟨k, hk⟩ := Int.eq_ofNat_of_zero_le (neg_nonneg.2 h)
    obtain rfl : e = -k := by omega
    simp [div_eq_mul_inv]

/-- The magnitude as a rational number. -/
def magnitude (x : Binary64) : ℚ := x.significand * 2 ^ x.exponent

theorem interval_denominator_pos (x : Binary64) : 0 < x.interval.denominator := by
  simp only [interval, Nat.one_shiftLeft]
  positivity

theorem interval_value (x : Binary64) :
    (x.interval.value : ℚ) / x.interval.denominator = x.magnitude := by
  simp only [interval, magnitude]
  rw [shiftLeft_div_shiftLeft, zpow_sub₀ two_ne_zero]
  push_cast
  ring

theorem interval_high (x : Binary64) :
    (x.interval.high : ℚ) / x.interval.denominator = highEnd x.rank := by
  simp only [interval, highEnd, significand_eq, exponent_eq]
  rw [shiftLeft_div_shiftLeft, zpow_sub₀ two_ne_zero]
  push_cast
  ring

theorem isZero_eq_false_iff {x : Binary64} : x.isZero = false ↔ x.rank.val ≠ 0 := by
  rw [isZero, beq_eq_false_iff_ne]

theorem significand_pos {x : Binary64} (hx : x.isZero = false) : 0 < x.significand := by
  have hrank := isZero_eq_false_iff.1 hx
  rw [significand_eq]
  unfold significandAt binade
  split <;> omega

theorem lowEnd_of_power {x : Binary64} (h : x.significand = binade ∧ -1074 < x.exponent) :
    lowEnd x.rank = (x.significand - 1 / 4) * 2 ^ x.exponent :=
  if_pos h

theorem lowEnd_of_not_power {x : Binary64} (h : ¬(x.significand = binade ∧ -1074 < x.exponent)) :
    lowEnd x.rank = (x.significand - 1 / 2) * 2 ^ x.exponent :=
  if_neg h

theorem interval_low {x : Binary64} (hx : x.isZero = false) :
    (x.interval.low : ℚ) / x.interval.denominator = lowEnd x.rank := by
  have hpos := significand_pos hx
  by_cases h : x.significand = binade ∧ -1074 < x.exponent
  · have hlow : x.interval.low = (4 * x.significand - 1) <<< (x.exponent - 2).toNat := by
      simp [interval, h]
    rw [lowEnd_of_power h, hlow, interval, shiftLeft_div_shiftLeft, zpow_sub₀ two_ne_zero,
      Nat.cast_sub (by omega)]
    push_cast
    ring
  · have hlow : x.interval.low = (4 * x.significand - 2) <<< (x.exponent - 2).toNat := by
      simp [interval, h]
    rw [lowEnd_of_not_power h, hlow, interval, shiftLeft_div_shiftLeft, zpow_sub₀ two_ne_zero,
      Nat.cast_sub (by omega)]
    push_cast
    ring

theorem interval_closed (x : Binary64) : x.interval.closed = (x.rank.val % 2 == 0) := by
  simp only [interval, significand_eq, significandAt_mod_two]

/-- Whether a quotient rounds to the magnitude is decided without rounding. -/
theorem holds_iff {x : Binary64} (hx : x.isZero = false) {num den : ℕ} (hden : 0 < den) :
    x.interval.holds num den = true ↔ RoundsTo (num / den) x.rank := by
  have hdenominator : (0 : ℚ) < x.interval.denominator := by
    exact_mod_cast x.interval_denominator_pos
  have hden : (0 : ℚ) < den := by exact_mod_cast hden
  simp only [Interval.holds, RoundsTo, interval_closed, beq_iff_eq]
  rw [← interval_low hx, ← interval_high]
  split
  · rw [div_le_div_iff₀ hdenominator hden, div_le_div_iff₀ hden hdenominator]
    norm_cast
    simp
  · rw [div_lt_div_iff₀ hdenominator hden, div_lt_div_iff₀ hden hdenominator]
    norm_cast
    simp

theorem magnitude_pos {x : Binary64} (hx : x.isZero = false) : 0 < x.magnitude := by
  have hsig : (0 : ℚ) < x.significand := by exact_mod_cast significand_pos hx
  exact mul_pos hsig (zpow_pos two_pos _)

/-- A half in units of the last place, as a share of the magnitude. -/
theorem share_le_half (x : Binary64) : (x.significand : ℚ) / 2 ^ 54 ≤ 1 / 2 := by
  have hlt : (x.significand : ℚ) < 2 * binade := by exact_mod_cast significandAt_lt x.rank
  rw [binade] at hlt
  push_cast at hlt
  rw [div_le_div_iff₀ (by positivity) two_pos]
  linarith

theorem lowEnd_le (x : Binary64) : lowEnd x.rank ≤ x.magnitude - x.magnitude / 2 ^ 54 := by
  have hpow : (0 : ℚ) ≤ 2 ^ x.exponent := (zpow_pos two_pos _).le
  have hshare : x.magnitude - x.magnitude / 2 ^ 54 =
      (x.significand - x.significand / 2 ^ 54) * 2 ^ x.exponent := by
    rw [magnitude]
    ring
  rw [hshare]
  by_cases h : x.significand = binade ∧ -1074 < x.exponent
  · rw [lowEnd_of_power h, h.1, binade]
    norm_num
  · rw [lowEnd_of_not_power h]
    exact mul_le_mul_of_nonneg_right (sub_le_sub_left x.share_le_half _) hpow

theorem le_highEnd (x : Binary64) : x.magnitude + x.magnitude / 2 ^ 54 ≤ highEnd x.rank := by
  have hpow : (0 : ℚ) ≤ 2 ^ x.exponent := (zpow_pos two_pos _).le
  have hshare : x.magnitude + x.magnitude / 2 ^ 54 =
      (x.significand + x.significand / 2 ^ 54) * 2 ^ x.exponent := by
    rw [magnitude]
    ring
  have hend : highEnd x.rank = (x.significand + 1 / 2) * 2 ^ x.exponent := rfl
  rw [hshare, hend]
  exact mul_le_mul_of_nonneg_right (add_le_add_right x.share_le_half _) hpow

/-- What is nearer to a magnitude than its part in two to the power of 54 rounds to it. -/
theorem roundsTo_of_abs_lt {x : Binary64} {q : ℚ} (h : |q - x.magnitude| < x.magnitude / 2 ^ 54) :
    RoundsTo q x.rank := by
  have hlow := x.lowEnd_le
  have hhigh := x.le_highEnd
  obtain ⟨hbelow, habove⟩ := abs_lt.1 h
  unfold RoundsTo
  split
  · constructor <;> linarith
  · constructor <;> linarith

end SpecLint.Binary64
