import MindMap.Proofs.Decimal.Shortest

/-!
# Rounding to doubles

A double is computed from a mantissa that is too long by shifting it to the right, keeping of what
falls out only a round bit and a sticky bit. `Locates` is the exact meaning of such a mantissa: a
rational number lies on it, or before, on or behind the middle to the next one. Shifting keeps
that meaning, and rounding a mantissa located at a number next to a whole one yields the whole
one.

From this: whatever rational number rounds to a double that is in canonical form, its rounded
mantissa and exponent are those of the double. Overflow to infinity, and rounding to zero, are not
considered here.
-/

namespace MindMap.Decimal

open Float.Model Float.Model.UnpackedFloat

/-! ### Mantissas with residual bits -/

/-- The rational numbers for which a mantissa stands together with its residual bits. -/
def Locates : ExtendedMantissa → Rat → Prop
  | ⟨mantissa, false, false⟩, x => x = mantissa
  | ⟨mantissa, false, true⟩, x => (mantissa : Rat) < x ∧ x < mantissa + 1 / 2
  | ⟨mantissa, true, false⟩, x => x = mantissa + 1 / 2
  | ⟨mantissa, true, true⟩, x => (mantissa : Rat) + 1 / 2 < x ∧ x < mantissa + 1

namespace Locates

variable {em : ExtendedMantissa} {x : Rat}

/-- The mantissa alone is the whole part. -/
theorem bounds (locates : Locates em x) : (em.mantissa : Rat) ≤ x ∧ x < em.mantissa + 1 := by
  obtain ⟨mantissa, roundBit, stickyBit⟩ := em
  cases roundBit <;> cases stickyBit <;> simp only [Locates] at locates ⊢ <;>
    constructor <;> linarith

/-- A bit that is shifted out becomes the round bit, and the earlier residual bits the sticky bit.
-/
theorem shiftRightOne (locates : Locates em x) : Locates em.shiftRightOne (x / 2) := by
  obtain ⟨mantissa, roundBit, stickyBit⟩ := em
  have halves : (mantissa : Rat) = (mantissa % 2 : Nat) + 2 * (mantissa / 2 : Nat) := by
    exact_mod_cast (Nat.mod_add_div mantissa 2).symm
  rcases Nat.mod_two_eq_zero_or_one mantissa with even | odd
  · rw [even, Nat.cast_zero, zero_add] at halves
    cases roundBit <;> cases stickyBit <;>
      simp [Locates, ExtendedMantissa.shiftRightOne, even, halves] at locates ⊢
    · linarith
    · constructor <;> linarith
    · constructor <;> linarith
    · constructor <;> linarith
  · rw [odd, Nat.cast_one] at halves
    cases roundBit <;> cases stickyBit <;>
      simp [Locates, ExtendedMantissa.shiftRightOne, odd, halves] at locates ⊢
    · linarith
    · constructor <;> linarith
    · constructor <;> linarith
    · constructor <;> linarith

theorem shiftRight (locates : Locates em x) (count : Nat) :
    Locates (em >>> count) (x / 2 ^ count) := by
  change Locates (count.repeat ExtendedMantissa.shiftRightOne em) _
  induction count with
  | zero => simpa [Nat.repeat] using locates
  | succ count inductionHypothesis =>
    rw [Nat.repeat, pow_succ, ← div_div]
    exact inductionHypothesis.shiftRightOne

/-- A mantissa located next to a whole number is rounded to it, from the middle only if it is even.
-/
theorem roundedMantissa {whole : Nat} (locates : Locates em x)
    (above : (whole : Rat) - 1 / 2 ≤ x) (below : x ≤ whole + 1 / 2)
    (inside : whole % 2 = 1 → (whole : Rat) - 1 / 2 < x ∧ x < whole + 1 / 2) :
    em.roundedMantissa = whole := by
  obtain ⟨mantissa, roundBit, stickyBit⟩ := em
  have apart : ∀ {a b : Nat}, (a : Rat) < b + 1 → a ≤ b := fun close =>
    Nat.lt_succ_iff.1 (by exact_mod_cast close)
  cases roundBit <;> cases stickyBit <;>
    simp only [Locates, ExtendedMantissa.roundedMantissa, ExtendedMantissa.accuracy,
      Accuracy.roundToNearestEven] at locates ⊢
  · exact Nat.le_antisymm (apart (by linarith)) (apart (by linarith))
  · exact Nat.le_antisymm (apart (by linarith)) (apart (by linarith))
  · have lower : mantissa ≤ whole := apart (by linarith)
    have upper : whole ≤ mantissa + 1 := apart (by push_cast; linarith)
    have even : whole % 2 = 0 := by
      by_contra odd
      obtain ⟨above, below⟩ := inside (by omega)
      have : whole < mantissa + 1 := by
        have : (whole : Rat) < (mantissa + 1 : Nat) := by push_cast; linarith
        exact_mod_cast this
      have : mantissa < whole := by
        have : (mantissa : Rat) < whole := by linarith
        exact_mod_cast this
      omega
    omega
  · exact Nat.le_antisymm (apart (by push_cast; linarith)) (apart (by push_cast; linarith))

end Locates

/-! ### Canonical form -/

/-- The parts of a positive double: as many digits as fit, except below the least exponent. -/
structure Binary.Canonical (value : Binary) : Prop where
  positive : 0 < value.significand
  fits : value.significand < 2 ^ 53
  leastExponent : -1074 ≤ value.exponent
  greatestExponent : value.exponent ≤ 971
  full : 2 ^ 52 ≤ value.significand ∨ value.exponent = -1074
  narrow : value.narrowBelow = true ↔ value.significand = 2 ^ 52 ∧ -1074 < value.exponent

/-- The exponent of a double by the place of its leading digit. -/
theorem targetExponent_eq (total : Int) :
    Format.binary64.targetExponent total = max (total - 53) (-1074) := rfl

/-- A number lies between the powers of two around its leading digit. -/
theorem log2_bounds {mantissa : Nat} (nonzero : mantissa ≠ 0) :
    (2 : Rat) ^ mantissa.log2 ≤ mantissa ∧ (mantissa : Rat) + 1 ≤ 2 ^ (mantissa.log2 + 1) := by
  constructor
  · exact_mod_cast Nat.log2_self_le nonzero
  · exact_mod_cast (Nat.lt_log2_self (n := mantissa))

namespace Binary.Canonical

variable {value : Binary}

/-- The leading digit of a double puts it where it is. -/
theorem targetExponent (canonical : value.Canonical) :
    Format.binary64.targetExponent (totalExponent value.significand value.exponent) =
      value.exponent := by
  have nonzero : value.significand ≠ 0 := canonical.positive.ne'
  have fits := (Nat.log2_lt nonzero).2 canonical.fits
  have least := canonical.leastExponent
  rw [targetExponent_eq, totalExponent]
  rcases canonical.full with full | subnormal
  · have full := (Nat.le_log2 nonzero).2 full
    omega
  · omega

/-- A number that rounds to a double is next to its significand in units of its last place. -/
theorem near {x : Rat} (rounds : value.Rounds x) :
    (value.significand : Rat) - 1 / 2 ≤ x / 2 ^ value.exponent ∧
      x / 2 ^ value.exponent ≤ value.significand + 1 / 2 ∧
      (value.significand % 2 = 1 →
        (value.significand : Rat) - 1 / 2 < x / 2 ^ value.exponent ∧
          x / 2 ^ value.exponent < value.significand + 1 / 2) ∧
      (value.narrowBelow = true → (value.significand : Rat) - 1 / 4 ≤ x / 2 ^ value.exponent) := by
  have measured : value.quarters x = 4 * (x / 2 ^ value.exponent) := by
    rw [quarters, zpow_sub₀ (by norm_num)]
    norm_num
    ring
  have lowest :
      (4 * value.significand : Rat) ≤ value.lowest + if value.narrowBelow then 1 else 2 := by
    unfold Binary.lowest
    split <;> exact_mod_cast (by omega : _ ≤ _)
  have highest : (value.highest : Rat) = 4 * value.significand + 2 := by
    simp [Binary.highest]
  have bounds := rounds.bounds
  rw [measured, highest] at bounds
  refine ⟨?_, by linarith [bounds.2], fun odd => ?_, fun narrow => ?_⟩
  · split at lowest <;> linarith [bounds.1]
  · have strict := rounds
    rw [Binary.Rounds, if_neg (by simp [Binary.endsBelong, odd]), measured, highest] at strict
    constructor
    · split at lowest <;> linarith [strict.1]
    · linarith [strict.2]
  · rw [if_pos narrow] at lowest
    linarith [bounds.1]

end Binary.Canonical

/-! ### From a located number to the double -/

theorem ofMantissaAndAccuracy_mantissa (mantissa : Nat) (accuracy : Accuracy) :
    (ExtendedMantissa.ofMantissaAndAccuracy mantissa accuracy).mantissa = mantissa := by
  unfold ExtendedMantissa.ofMantissaAndAccuracy
  split <;> rfl

variable {value : Binary} {x : Rat} {mantissa : Nat} {exponent : Int} {accuracy : Accuracy}

/-- Where the leading digit of a located number is, if its mantissa has one. -/
theorem Locates.place
    (locates : Locates (.ofMantissaAndAccuracy mantissa accuracy) (x / 2 ^ exponent)) :
    x < 2 ^ totalExponent mantissa exponent ∧
      (mantissa ≠ 0 → (2 : Rat) ^ (totalExponent mantissa exponent - 1) ≤ x) := by
  have unit : (0 : Rat) < 2 ^ exponent := by positivity
  have bounds := locates.bounds
  rw [ofMantissaAndAccuracy_mantissa, le_div_iff₀ unit, div_lt_iff₀ unit] at bounds
  obtain ⟨lower, upper⟩ := bounds
  by_cases none : mantissa = 0
  · refine ⟨upper.trans_le ?_, fun some => absurd none some⟩
    rw [none, totalExponent, Nat.cast_zero, zero_add, one_mul]
    exact zpow_le_zpow_right₀ (by norm_num) (by simp)
  · have log2 := log2_bounds none
    constructor
    · refine upper.trans_le ((mul_le_mul_of_nonneg_right log2.2 unit.le).trans_eq ?_)
      rw [totalExponent, zpow_add₀ (by norm_num)]
      norm_cast
    · intro _
      refine (Eq.trans_le ?_ (mul_le_mul_of_nonneg_right log2.1 unit.le)).trans lower
      rw [totalExponent,
        show (mantissa.log2 : Int) + 1 + exponent - 1 = mantissa.log2 + exponent by ring,
        zpow_add₀ (by norm_num), zpow_natCast]

/-- A number that rounds to a double has no digit in front of those of the double. -/
theorem totalExponent_le (canonical : value.Canonical) (rounds : value.Rounds x)
    (locates : Locates (.ofMantissaAndAccuracy mantissa accuracy) (x / 2 ^ exponent))
    (some : mantissa ≠ 0) : totalExponent mantissa exponent ≤ value.exponent + 53 := by
  have unit : (0 : Rat) < 2 ^ value.exponent := by positivity
  obtain ⟨-, upper, -, -⟩ := Binary.Canonical.near rounds
  have fits : (value.significand : Rat) + 1 ≤ 2 ^ 53 := by exact_mod_cast canonical.fits
  have far : x < 2 ^ (value.exponent + 53) := by
    rw [zpow_add₀ (by norm_num), ← div_lt_iff₀' unit]
    norm_num
    linarith
  have powers := (locates.place.2 some).trans_lt far
  have := (zpow_lt_zpow_iff_right₀ (by norm_num : (1 : Rat) < 2)).1 powers
  omega

/-- A number that rounds to a double with all its digits lacks one of them at most. -/
theorem lt_totalExponent (rounds : value.Rounds x) (full : 2 ^ 52 ≤ value.significand)
    (locates : Locates (.ofMantissaAndAccuracy mantissa accuracy) (x / 2 ^ exponent)) :
    value.exponent + 51 < totalExponent mantissa exponent := by
  have unit : (0 : Rat) < 2 ^ value.exponent := by positivity
  obtain ⟨lower, -, -, -⟩ := Binary.Canonical.near rounds
  have full : (2 : Rat) ^ 52 ≤ value.significand := by exact_mod_cast full
  refine (zpow_lt_zpow_iff_right₀ (by norm_num : (1 : Rat) < 2)).1 (lt_trans ?_ locates.place.1)
  rw [zpow_add₀ (by norm_num), ← lt_div_iff₀' unit]
  norm_num
  linarith

/-- A number with a digit less than the double it rounds to is rounded up to a power of two. -/
theorem significand_eq_of_short (rounds : value.Rounds x) (full : 2 ^ 52 ≤ value.significand)
    (short : x / 2 ^ value.exponent < 2 ^ 52) : value.significand = 2 ^ 52 := by
  obtain ⟨lower, -, -, -⟩ := Binary.Canonical.near rounds
  have near : (value.significand : Rat) < (2 ^ 52 + 1 : Nat) := by
    push_cast
    linarith
  have := Nat.cast_lt.1 near
  omega

/-- A mantissa located at a number that rounds to a double is shifted to the exponent of the
double, or to the one below if the number is below the least significand of that exponent. -/
theorem targetExponent_of_locates (canonical : value.Canonical) (rounds : value.Rounds x)
    (locates : Locates (.ofMantissaAndAccuracy mantissa accuracy) (x / 2 ^ exponent))
    (fine : exponent ≤ Format.binary64.targetExponent (totalExponent mantissa exponent)) :
    Format.binary64.targetExponent (totalExponent mantissa exponent) = value.exponent ∨
      (Format.binary64.targetExponent (totalExponent mantissa exponent) = value.exponent - 1 ∧
        value.significand = 2 ^ 52 ∧ value.narrowBelow = true ∧
        x / 2 ^ value.exponent < 2 ^ 52) := by
  have least := canonical.leastExponent
  have before := totalExponent_le canonical rounds locates
  have empty : mantissa = 0 → totalExponent mantissa exponent = 1 + exponent := by
    rintro rfl
    simp [totalExponent]
  rw [targetExponent_eq] at fine ⊢
  by_cases last : value.exponent = -1074
  · left
    by_cases none : mantissa = 0
    · have empty := empty none
      omega
    · have before := before none
      omega
  have full : 2 ^ 52 ≤ value.significand := canonical.full.resolve_right last
  have behind := lt_totalExponent rounds full locates
  have before := before fun none => by
    have empty := empty none
    omega
  by_cases same : totalExponent mantissa exponent = value.exponent + 53
  · left
    omega
  right
  have next : totalExponent mantissa exponent = value.exponent + 52 := by omega
  have short : x / 2 ^ value.exponent < 2 ^ 52 := by
    have below := locates.place.1
    rw [next, zpow_add₀ (by norm_num)] at below
    rw [div_lt_iff₀' (by positivity)]
    exact_mod_cast below
  have power := significand_eq_of_short rounds full short
  exact ⟨by omega, power, canonical.narrow.2 ⟨power, by omega⟩, short⟩

/-- Shifting to a coarser exponent moves the mantissa and keeps the number. -/
theorem locates_shiftToExponent
    (locates : Locates (.ofMantissaAndAccuracy mantissa accuracy) (x / 2 ^ exponent)) {target : Int}
    (fine : exponent ≤ target) :
    (shiftToExponent mantissa exponent accuracy target).2 = target ∧
      Locates (shiftToExponent mantissa exponent accuracy target).1 (x / 2 ^ target) := by
  have shift : exponent + ((target - exponent).toNat : Int) = target := by omega
  refine ⟨shift, ?_⟩
  have shifted := locates.shiftRight (target - exponent).toNat
  rwa [div_div, ← zpow_natCast, ← zpow_add₀ (by norm_num), shift] at shifted

/-- A mantissa that is exact and where it should be is not shifted. -/
theorem Binary.Canonical.shiftToTargetExponent (canonical : value.Canonical) :
    shiftToTargetExponent .binary64 value.significand value.exponent .exact =
      (⟨value.significand, false, false⟩, value.exponent) := by
  simp [UnpackedFloat.shiftToTargetExponent, shiftToExponent, canonical.targetExponent,
    HShiftRight.hShiftRight, Nat.repeat, ExtendedMantissa.ofMantissaAndAccuracy]

/-- A mantissa that one carry has made too long is shifted by one digit. -/
theorem shiftToTargetExponent_carry (least : -1074 < exponent) :
    shiftToTargetExponent .binary64 (2 ^ 53) (exponent - 1) .exact =
      (⟨2 ^ 52, false, false⟩, exponent) := by
  have target : Format.binary64.targetExponent (totalExponent (2 ^ 53) (exponent - 1)) =
      exponent := by
    rw [targetExponent_eq, totalExponent, Nat.log2_two_pow]
    omega
  have one : (exponent - (exponent - 1)).toNat = 1 := by omega
  rw [UnpackedFloat.shiftToTargetExponent, target, shiftToExponent, one]
  refine Prod.ext_iff.2 ⟨rfl, ?_⟩
  simp

/-- Rounding finds the double to which a located number rounds. -/
theorem roundWithAccuracy_eq (canonical : value.Canonical) (rounds : value.Rounds x)
    (locates : Locates (.ofMantissaAndAccuracy mantissa accuracy) (x / 2 ^ exponent))
    (fine : exponent ≤ Format.binary64.targetExponent (totalExponent mantissa exponent))
    (sign : Sign) :
    roundWithAccuracy .binary64 sign mantissa exponent accuracy =
      .finite sign value.significand value.exponent canonical.positive := by
  obtain ⟨reached, located⟩ := locates_shiftToExponent locates fine
  obtain ⟨lower, upper, inside, narrow⟩ := Binary.Canonical.near rounds
  have nonzero := canonical.positive.ne'
  unfold roundWithAccuracy
  rw [show UnpackedFloat.shiftToTargetExponent .binary64 mantissa exponent accuracy
    = shiftToExponent mantissa exponent accuracy _ from rfl]
  dsimp only
  rcases targetExponent_of_locates canonical rounds locates fine with
    same | ⟨below, power, narrowBelow, short⟩
  · rw [same] at reached located ⊢
    rw [located.roundedMantissa lower upper inside, reached, canonical.shiftToTargetExponent]
    exact dif_neg nonzero
  · rw [below] at reached located ⊢
    have doubled : x / 2 ^ (value.exponent - 1) = 2 * (x / 2 ^ value.exponent) := by
      rw [zpow_sub_one₀ (by norm_num)]
      field_simp
    have narrow := narrow narrowBelow
    rw [power] at narrow
    rw [doubled] at located
    have rounded :
        (shiftToExponent mantissa exponent accuracy (value.exponent - 1)).1.roundedMantissa
          = 2 ^ 53 := by
      refine located.roundedMantissa ?_ ?_ (by simp)
      · push_cast at narrow ⊢
        linarith
      · push_cast
        linarith
    rw [rounded, reached, shiftToTargetExponent_carry (canonical.narrow.1 narrowBelow).2]
    refine (dif_neg (by simp)).trans ?_
    rw [UnpackedFloat.finite.injEq]
    exact ⟨rfl, power.symm, rfl⟩

end MindMap.Decimal
