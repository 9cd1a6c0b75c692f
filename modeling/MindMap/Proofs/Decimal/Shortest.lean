import Mathlib.Algebra.Order.Field.Power
import Mathlib.Tactic.Linarith
import MindMap.Proofs.Decimal.Spelling

/-!
# Shortest decimals round back

The selection of a shortest decimal compares natural numbers on grids. Here its comparisons are
read as comparisons of rational numbers: `Binary.Rounds` holds of the rationals between the
midpoints to the two neighbouring doubles, the midpoints themselves included where the significand
is even. Whatever decimal is selected is one of them.

That no decimal with fewer digits is one of them is not claimed.
-/

namespace MindMap.Decimal

namespace Binary

/-- The rational number that a binary fraction stands for. -/
def magnitude (value : Binary) : Rat := value.significand * 2 ^ value.exponent

/-- A rational number measured in quarters of the last place of a binary fraction. -/
def quarters (value : Binary) (x : Rat) : Rat := x * 2 ^ (2 - value.exponent)

/-- A rational number rounds to a binary fraction. -/
def Rounds (value : Binary) (x : Rat) : Prop :=
  if value.endsBelong then
    (value.lowest : Rat) ≤ value.quarters x ∧ value.quarters x ≤ value.highest
  else (value.lowest : Rat) < value.quarters x ∧ value.quarters x < value.highest

theorem quarter_pos (value : Binary) (exponent : Int) : 0 < (value.grid exponent).quarter :=
  Nat.mul_pos (Nat.pow_pos (by decide)) (Nat.pow_pos (by decide))

/-- A power with an integer exponent is a quotient of two with natural exponents, of which one is
one. -/
theorem pow_toNat {base : Rat} (nonzero : base ≠ 0) (exponent : Int) :
    base ^ exponent.toNat = base ^ exponent * base ^ (-exponent).toNat := by
  rw [← zpow_natCast, ← zpow_natCast, ← zpow_add₀ nonzero]
  congr 1
  omega

/-- The points of a grid and the quarters of a last place are brought to a common unit. -/
theorem point_eq (value : Binary) (exponent : Int) :
    ((value.grid exponent).point : Rat) =
      value.quarters (10 ^ exponent) * (value.grid exponent).quarter := by
  have ten := pow_toNat (show (10 : Rat) ≠ 0 by norm_num) exponent
  have two := pow_toNat (show (2 : Rat) ≠ 0 by norm_num) (2 - value.exponent)
  rw [show -(2 - value.exponent) = value.exponent - 2 by ring] at two
  simp only [grid, quarters, Nat.pow_eq, Nat.cast_mul, Nat.cast_pow, Nat.cast_ofNat]
  rw [ten, two]
  ring

/-- What is admitted on a grid rounds to the value. -/
theorem admits_iff (value : Binary) (exponent : Int) (n : Nat) :
    value.admits (value.grid exponent) n = true ↔ value.Rounds (n * 10 ^ exponent) := by
  have positive : (0 : Rat) < (value.grid exponent).quarter :=
    Nat.cast_pos.2 (value.quarter_pos exponent)
  have here : ((n * (value.grid exponent).point : Nat) : Rat) =
      value.quarters (n * 10 ^ exponent) * (value.grid exponent).quarter := by
    rw [Nat.cast_mul, point_eq, quarters, quarters]
    ring
  unfold admits Rounds
  dsimp only
  split
  · simp only [Bool.and_eq_true, decide_eq_true_eq, ← Nat.cast_le (α := Rat), here, Nat.cast_mul,
      mul_le_mul_iff_left₀ positive]
  · simp only [Bool.and_eq_true, decide_eq_true_eq, ← Nat.cast_lt (α := Rat), here, Nat.cast_mul,
      mul_lt_mul_iff_left₀ positive]

variable {value : Binary}

theorem Rounds.bounds {x : Rat} (rounds : value.Rounds x) :
    (value.lowest : Rat) ≤ value.quarters x ∧ value.quarters x ≤ value.highest := by
  unfold Rounds at rounds
  split at rounds
  · exact rounds
  · exact ⟨rounds.1.le, rounds.2.le⟩

theorem lowest_pos (nonzero : value.significand ≠ 0) : 0 < value.lowest := by
  unfold lowest
  split <;> omega

/-- Only positive numbers round to a positive number. -/
theorem Rounds.pos {x : Rat} (nonzero : value.significand ≠ 0) (rounds : value.Rounds x) :
    0 < x := by
  have lowest : (0 : Rat) < value.lowest := Nat.cast_pos.2 (lowest_pos nonzero)
  have unit : (0 : Rat) < 2 ^ (2 - value.exponent) := by positivity
  exact (mul_pos_iff_of_pos_right unit).1 (lowest.trans_le rounds.bounds.1)

/-- A number rounds to itself. -/
theorem rounds_magnitude (nonzero : value.significand ≠ 0) : value.Rounds value.magnitude := by
  have whole : value.quarters value.magnitude = (4 * value.significand : Nat) := by
    rw [quarters, magnitude, mul_assoc, ← zpow_add₀ (by norm_num)]
    rw [show value.exponent + (2 - value.exponent) = 2 by ring]
    push_cast
    ring
  have above : value.lowest < 4 * value.significand := by unfold lowest; split <;> omega
  have below : 4 * value.significand < value.highest := by unfold highest; omega
  unfold Rounds
  rw [whole]
  split
  · exact ⟨Nat.cast_le.2 above.le, Nat.cast_le.2 below.le⟩
  · exact ⟨Nat.cast_lt.2 above, Nat.cast_lt.2 below⟩

/-- The value itself as a decimal is the value. -/
theorem magnitude_exact (value : Binary) : value.exact.magnitude = value.magnitude := by
  unfold exact Digits.magnitude magnitude
  split
  · next whole =>
    push_cast [Nat.pow_eq]
    rw [← zpow_natCast, Int.toNat_of_nonneg whole]
    ring
  · next fraction =>
    push_cast [Nat.pow_eq]
    rw [← zpow_natCast, Int.toNat_of_nonneg (by omega), mul_assoc]
    congr 1
    rw [show (10 : Rat) = 2 * 5 by norm_num, mul_zpow, zpow_neg]
    field_simp

end Binary

/-- Trailing zeros are dropped from the coefficient, not from the number. -/
theorem Digits.magnitude_stripZeros (fuel : Nat) (digits : Digits) :
    (digits.stripZeros fuel).magnitude = digits.magnitude := by
  induction fuel generalizing digits with
  | zero => rfl
  | succ fuel inductionHypothesis =>
    unfold stripZeros
    split
    · next divides =>
      rw [inductionHypothesis, magnitude, magnitude, zpow_add_one₀ (by norm_num)]
      have whole : (digits.coefficient : Rat) = (digits.coefficient / 10 : Nat) * 10 := by
        exact_mod_cast (Nat.div_mul_cancel (Nat.dvd_of_mod_eq_zero divides.2)).symm
      rw [whole]
      ring
    · rfl

/-- The decimal that is shown for a number rounds back to it. -/
theorem rounds_shortest (tie : Tie) {value : Binary} (nonzero : value.significand ≠ 0) :
    value.Rounds (shortest tie value).magnitude := by
  unfold shortest
  dsimp only
  rw [Digits.magnitude_stripZeros]
  generalize selected : (List.range enoughDigits).findSome? _ = found
  cases found with
  | none =>
    rw [Option.getD_none, Binary.magnitude_exact]
    exact Binary.rounds_magnitude nonzero
  | some digits =>
    obtain ⟨count, _, nearest⟩ := List.exists_of_findSome?_eq_some selected
    obtain ⟨same, admits⟩ := admits_of_nearest? nearest
    rw [Option.getD_some, Digits.magnitude, same]
    exact (value.admits_iff _ _).1 admits

theorem shortest_ne_zero (tie : Tie) {value : Binary} (nonzero : value.significand ≠ 0) :
    (shortest tie value).coefficient ≠ 0 := by
  intro zero
  have positive := (rounds_shortest tie nonzero).pos nonzero
  rw [Digits.magnitude, zero] at positive
  simp at positive

end MindMap.Decimal
