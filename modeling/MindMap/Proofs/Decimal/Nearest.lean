import MindMap.Decimal.Reader
import MindMap.Proofs.Decimal.Packing

/-!
# Doubles nearest to decimals

A decimal is turned into a double by one multiplication or division, of powers of ten either taken
exactly or as doubles that hold them exactly. Each is correctly rounded: its result is the double
to which the exact product or quotient rounds. So `nearestDouble` finds every double from every
decimal that rounds to it, on each of its paths.

Decimals that round to zero or overflow are not considered here.
-/

namespace MindMap.Decimal

open Float.Model Float.Model.UnpackedFloat

variable {value : Binary}

/-- A number in canonical form, with its sign. -/
theorem signed_of_canonical (canonical : value.Canonical) (sign : Sign) :
    signed sign value = .finite sign value.significand value.exponent canonical.positive :=
  dif_neg canonical.positive.ne'

/-! ### Products and quotients -/

/-- A product of enough digits is rounded once. -/
theorem mul_eq (canonical : value.Canonical) {mantissa factor : Nat} {exponent shift : Int}
    (positive : 0 < mantissa) (factorPositive : 0 < factor) (long : 2 ^ 52 ≤ mantissa * factor)
    (rounds : value.Rounds (mantissa * 2 ^ exponent * (factor * 2 ^ shift))) :
    mul .binary64 (.finite .positive mantissa exponent positive)
      (.finite .positive factor shift factorPositive) = signed .positive value := by
  have located : Locates (.ofMantissaAndAccuracy (mantissa * factor) .exact)
      (mantissa * 2 ^ exponent * (factor * 2 ^ shift) / 2 ^ (exponent + shift)) := by
    change _ = ((mantissa * factor : Nat) : Rat)
    rw [zpow_add₀ (by norm_num)]
    field_simp
    push_cast
    ring
  have digits := (Nat.le_log2 (by omega)).2 long
  rw [signed_of_canonical canonical]
  refine roundWithAccuracy_eq canonical rounds located ?_ _
  rw [targetExponent_eq, totalExponent]
  omega

/-- A remainder tells on which side of the middle a quotient is. -/
theorem locates_quotient (dividend : Nat) {divisor : Nat} (positive : 0 < divisor) :
    Locates (.ofMantissaAndAccuracy (dividend / divisor)
      (accuracyOfFraction (dividend % divisor) divisor)) (dividend / divisor) := by
  have unit : (0 : Rat) < divisor := Nat.cast_pos.2 positive
  have parts : (dividend : Rat) / divisor =
      (dividend / divisor : Nat) + (dividend % divisor : Nat) / divisor := by
    rw [add_div' _ _ _ unit.ne', div_left_inj' unit.ne', mul_comm]
    exact_mod_cast (Nat.div_add_mod dividend divisor).symm
  have inside : dividend % divisor < divisor := Nat.mod_lt _ positive
  rw [parts]
  generalize dividend / divisor = quotient
  generalize dividend % divisor = remainder at inside
  have below : (remainder : Rat) / divisor < 1 := by
    rw [div_lt_one₀ unit]
    exact_mod_cast inside
  unfold accuracyOfFraction
  split
  · next none => simp [ExtendedMantissa.ofMantissaAndAccuracy, Locates, none]
  · next some =>
    have above : (0 : Rat) < remainder / divisor :=
      div_pos (Nat.cast_pos.2 (Nat.pos_of_ne_zero some)) unit
    cases order : compare (2 * remainder) divisor with
    | lt =>
      have half : (remainder : Rat) / divisor < 1 / 2 := by
        rw [div_lt_div_iff₀ unit (by norm_num), mul_comm, one_mul]
        exact_mod_cast Nat.compare_eq_lt.1 order
      exact ⟨by linarith, by linarith⟩
    | eq =>
      have half : (remainder : Rat) / divisor = 1 / 2 := by
        rw [div_eq_div_iff unit.ne' (by norm_num), mul_comm, one_mul]
        exact_mod_cast Nat.compare_eq_eq.1 order
      exact congrArg _ half
    | gt =>
      have half : (1 : Rat) / 2 < remainder / divisor := by
        rw [div_lt_div_iff₀ (by norm_num) unit, one_mul, mul_comm]
        exact_mod_cast Nat.compare_eq_gt.1 order
      exact ⟨by linarith, by linarith⟩

/-- A dividend that is longer by enough digits gives a quotient of enough digits. -/
theorem long_quotient {dividend divisor count : Nat} (nonzero : dividend ≠ 0)
    (positive : 0 < divisor) (longer : divisor.log2 + 53 ≤ dividend.log2 + count) :
    2 ^ 52 ≤ dividend <<< count / divisor := by
  rw [Nat.le_div_iff_mul_le positive, Nat.shiftLeft_eq]
  calc 2 ^ 52 * divisor ≤ 2 ^ 52 * 2 ^ (divisor.log2 + 1) :=
        Nat.mul_le_mul_left _ Nat.lt_log2_self.le
    _ = 2 ^ (divisor.log2 + 53) := by rw [← pow_add, Nat.add_comm]
    _ ≤ 2 ^ (dividend.log2 + count) := Nat.pow_le_pow_right (by decide) longer
    _ = 2 ^ dividend.log2 * 2 ^ count := pow_add ..
    _ ≤ dividend * 2 ^ count := Nat.mul_le_mul_right _ (Nat.log2_self_le nonzero)

/-- A quotient is computed to enough digits and rounded once. -/
theorem div_eq (canonical : value.Canonical) {mantissa divisor : Nat} {exponent shift : Int}
    (positive : 0 < mantissa) (divisorPositive : 0 < divisor)
    (rounds : value.Rounds (mantissa * 2 ^ exponent / (divisor * 2 ^ shift))) :
    UnpackedFloat.div .binary64 (.finite .positive mantissa exponent positive)
      (.finite .positive divisor shift divisorPositive) = signed .positive value := by
  rw [signed_of_canonical canonical]
  change roundWithAccuracy .binary64 .positive _ _ _ = _
  generalize reached : min (exponent - shift) (Format.binary64.targetExponent
    (totalExponent mantissa exponent - totalExponent divisor shift)) = target
  generalize moved : (exponent - shift - target).toNat = count
  have exponents : exponent = shift + target + count := by omega
  have exact : (mantissa : Rat) * 2 ^ exponent / (divisor * 2 ^ shift) =
      (mantissa <<< count : Nat) / divisor * 2 ^ target := by
    rw [exponents, zpow_add₀ (by norm_num), zpow_add₀ (by norm_num), Nat.shiftLeft_eq]
    push_cast
    field_simp
    exact zpow_natCast 2 count
  rw [exact] at rounds
  have located := locates_quotient (mantissa <<< count) divisorPositive
  refine roundWithAccuracy_eq canonical rounds ?_ ?_ _
  · rwa [mul_div_cancel_right₀ _ (by positivity)]
  · rw [targetExponent_eq] at reached ⊢
    by_cases least : target ≤ -1074
    · omega
    · have longer : divisor.log2 + 53 ≤ mantissa.log2 + count := by
        unfold totalExponent at reached
        omega
      have long := long_quotient positive.ne' divisorPositive longer
      have digits := (Nat.le_log2 (by omega)).2 long
      rw [totalExponent]
      omega

/-! ### Decimals scaled by powers of ten -/

/-- A decimal of moderate size is rounded once. -/
theorem ofScientific_eq (canonical : value.Canonical) {coefficient : Nat} {exponent : Int}
    (nonzero : coefficient ≠ 0) (rounds : value.Rounds (coefficient * 10 ^ exponent))
    (upper : exponent ≤ 2048) (lower : -(2048 + coefficient.log2 : Int) ≤ exponent) :
    UnpackedFloat.ofScientific .binary64 coefficient exponent = signed .positive value := by
  have positive : 0 < coefficient := Nat.pos_of_ne_zero nonzero
  unfold UnpackedFloat.ofScientific
  rw [dif_neg nonzero, if_neg (by norm_num; omega), if_neg (by norm_num; omega)]
  split
  · next whole =>
    refine mul_eq canonical _ _ ?_ ?_
    · rw [Nat.shiftLeft_eq]
      have scaled : 1 * 1 ≤ coefficient * 10 ^ exponent.toNat :=
        Nat.mul_le_mul positive (Nat.pow_pos (by decide))
      change 2 ^ 52 ≤ coefficient * 2 ^ 53 * 10 ^ exponent.toNat
      rw [Nat.mul_right_comm]
      omega
    · convert rounds using 1
      rw [Nat.shiftLeft_eq, zpow_zero, mul_one]
      change ((coefficient * 2 ^ 53 : Nat) : Rat) * 2 ^ (-(53 : Int)) * (10 ^ exponent.toNat : Nat)
        = _
      have cancel : (9007199254740992 : Rat) * 2 ^ (-(53 : Int)) = 1 := by norm_num
      push_cast
      rw [← zpow_natCast 10, Int.toNat_of_nonneg whole, mul_assoc (coefficient : Rat), cancel,
        mul_one]
  · next fraction =>
    refine div_eq canonical positive _ ?_
    convert rounds using 1
    push_cast
    rw [mul_one, mul_one, ← zpow_natCast, Int.toNat_of_nonneg (by omega), zpow_neg,
      div_inv_eq_mul]

/-- A double is a positive whole number exactly, with a significand of full length. -/
def Holds (x : Float) (n : Nat) : Prop :=
  ∃ (significand : Nat) (exponent : Int) (positive : 0 < significand),
    x.toModel.unpack = .finite .positive significand exponent positive ∧
      (significand : Rat) * 2 ^ exponent = n ∧ 2 ^ 52 ≤ significand

/-- A whole number of no more digits than fit, in canonical form. -/
def wholeBinary (n : Nat) : Binary where
  significand := n * 2 ^ (52 - n.log2)
  exponent := n.log2 - 52
  narrowBelow := n * 2 ^ (52 - n.log2) == 2 ^ 52

theorem canonical_wholeBinary {n : Nat} (positive : 0 < n) (small : n < 2 ^ 53) :
    (wholeBinary n).Canonical := by
  have digits : n.log2 < 53 := (Nat.log2_lt positive.ne').2 small
  have lower : 2 ^ 52 ≤ n * 2 ^ (52 - n.log2) := by
    calc 2 ^ 52 = 2 ^ n.log2 * 2 ^ (52 - n.log2) := by rw [← pow_add]; congr 1; omega
      _ ≤ n * 2 ^ (52 - n.log2) := Nat.mul_le_mul_right _ (Nat.log2_self_le positive.ne')
  have upper : n * 2 ^ (52 - n.log2) < 2 ^ 53 := by
    calc n * 2 ^ (52 - n.log2) < 2 ^ (n.log2 + 1) * 2 ^ (52 - n.log2) :=
          Nat.mul_lt_mul_of_pos_right Nat.lt_log2_self (Nat.pow_pos (by decide))
      _ = 2 ^ 53 := by rw [← pow_add]; congr 1; omega
  refine ⟨Nat.lt_of_lt_of_le (by decide) lower, upper, ?_, ?_, .inl lower, ?_⟩
  · change (-1074 : Int) ≤ n.log2 - 52
    omega
  · change (n.log2 : Int) - 52 ≤ 971
    omega
  · simp only [wholeBinary, beq_iff_eq]
    omega

theorem magnitude_wholeBinary {n : Nat} (positive : 0 < n) (small : n < 2 ^ 53) :
    (wholeBinary n).magnitude = n := by
  have digits : n.log2 < 53 := (Nat.log2_lt positive.ne').2 small
  unfold wholeBinary Binary.magnitude
  push_cast
  rw [← zpow_natCast, mul_assoc, ← zpow_add₀ (by norm_num), Nat.cast_sub (by omega)]
  simp

/-- A whole number of no more digits than fit is rounded to itself. -/
theorem round_whole {n : Nat} (positive : 0 < n) (small : n < 2 ^ 53) :
    UnpackedFloat.round .binary64 .positive n 0 = signed .positive (wholeBinary n) := by
  have canonical := canonical_wholeBinary positive small
  have digits : n.log2 < 53 := (Nat.log2_lt positive.ne').2 small
  have target : Format.binary64.targetExponent (totalExponent n 0) = n.log2 - 52 := by
    rw [targetExponent_eq, totalExponent]
    omega
  have count : (0 - ((n.log2 : Int) - 52)).toNat = 52 - n.log2 := by omega
  have moved : decreaseExponent n 0 (n.log2 - 52) =
      ((wholeBinary n).significand, (wholeBinary n).exponent) := by
    rw [decreaseExponent, count, Nat.shiftLeft_eq]
    exact Prod.ext_iff.2 ⟨rfl, by simp only [wholeBinary]; omega⟩
  have located : Locates (.ofMantissaAndAccuracy (wholeBinary n).significand .exact)
      ((wholeBinary n).magnitude / 2 ^ (wholeBinary n).exponent) := by
    change _ = ((wholeBinary n).significand : Rat)
    rw [Binary.magnitude, mul_div_cancel_right₀ _ (by positivity)]
  rw [signed_of_canonical canonical, UnpackedFloat.round, target]
  dsimp only
  rw [moved]
  exact roundWithAccuracy_eq canonical (Binary.rounds_magnitude canonical.positive.ne') located
    canonical.targetExponent.ge _

/-- A whole number of no more digits than fit is held exactly. -/
theorem holds_toFloat {n : Nat} (positive : 0 < n) (small : n < 2 ^ 53) :
    Holds n.toUInt64.toFloat n := by
  have canonical := canonical_wholeBinary positive small
  have converted :
      UnpackedFloat.ofUInt64 .binary64 n.toUInt64 = signed .positive (wholeBinary n) := by
    have same : n.toUInt64.toNat = n := UInt64.toNat_ofNat_of_lt' (small.trans (by decide))
    have sign : compare (n : Int) 0 = .gt := by
      rw [Int.compare_eq_gt]
      omega
    rw [UnpackedFloat.ofUInt64, UnpackedFloat.ofNat, UnpackedFloat.ofInt, same,
      UnpackedFloat.normalize, sign]
    exact round_whole positive small
  refine ⟨_, _, canonical.positive, ?_, magnitude_wholeBinary positive small,
    canonical.full.resolve_right (by change ¬(n.log2 : Int) - 52 = -1074; omega)⟩
  change (Float.Model.pack (UnpackedFloat.ofUInt64 .binary64 n.toUInt64)).unpack = _
  rw [converted, unpack_pack canonical.isDouble, signed_of_canonical canonical]

/-- Whether a double is a power of ten. -/
def isPower (x : Float) (count : Nat) : Bool :=
  match x.toModel.unpack with
  | .finite .positive significand exponent _ =>
    significand * 2 ^ exponent.toNat == 10 ^ count * 2 ^ (-exponent).toNat &&
      decide (2 ^ 52 ≤ significand)
  | _ => false

theorem isPower_kept : ∀ count : Fin Float.exactlyRepresentablePowersOfTen.size,
    isPower Float.exactlyRepresentablePowersOfTen[count] count = true := by
  decide +kernel

/-- The powers of ten that are kept are held exactly. -/
theorem holds_power {count : Nat} (kept : count < Float.exactlyRepresentablePowersOfTen.size) :
    Holds Float.exactlyRepresentablePowersOfTen[count] (10 ^ count) := by
  have checked := isPower_kept ⟨count, kept⟩
  unfold isPower at checked
  split at checked
  · next significand exponent positive unpacked =>
    simp only [Bool.and_eq_true, beq_iff_eq, decide_eq_true_eq] at checked
    refine ⟨significand, exponent, positive, unpacked, ?_, checked.2⟩
    have whole : (significand : Rat) * 2 ^ exponent.toNat = 10 ^ count * 2 ^ (-exponent).toNat := by
      exact_mod_cast checked.1
    rw [Binary.pow_toNat (by norm_num), ← mul_assoc] at whole
    exact_mod_cast mul_right_cancel₀ (by positivity) whole
  · cases checked

/-- A product of exact doubles is the double to which the product rounds. -/
theorem Holds.mul (canonical : value.Canonical) {x y : Float} {m n : Nat} (left : Holds x m)
    (right : Holds y n) (rounds : value.Rounds (m * n)) :
    x * y = .ofModel (.pack (signed .positive value)) := by
  obtain ⟨mantissa, exponent, positive, unpacked, exact, long⟩ := left
  obtain ⟨factor, shift, factorPositive, factorUnpacked, factorExact, -⟩ := right
  change Float.ofModel (.pack (UnpackedFloat.mul _ x.toModel.unpack y.toModel.unpack)) = _
  rw [unpacked, factorUnpacked, mul_eq canonical positive factorPositive
    (long.trans (Nat.le_mul_of_pos_right _ factorPositive)) (by rwa [exact, factorExact])]

/-- A quotient of exact doubles is the double to which the quotient rounds. -/
theorem Holds.div (canonical : value.Canonical) {x y : Float} {m n : Nat} (left : Holds x m)
    (right : Holds y n) (rounds : value.Rounds (m / n)) :
    x / y = .ofModel (.pack (signed .positive value)) := by
  obtain ⟨mantissa, exponent, positive, unpacked, exact, -⟩ := left
  obtain ⟨divisor, shift, divisorPositive, divisorUnpacked, divisorExact, -⟩ := right
  change Float.ofModel (.pack (UnpackedFloat.div _ x.toModel.unpack y.toModel.unpack)) = _
  rw [unpacked, divisorUnpacked, div_eq canonical positive divisorPositive
    (by rwa [exact, divisorExact])]

/-- A decimal is turned into the double to which it rounds, whether it is scaled by doubles or
exactly. -/
theorem floatOfScientific_eq (canonical : value.Canonical) {coefficient count : Nat}
    (nonzero : coefficient ≠ 0) (below : Bool) {exponent : Int}
    (power : exponent = if below then -(count : Int) else count)
    (rounds : value.Rounds (coefficient * 10 ^ exponent)) (upper : exponent ≤ 2048)
    (lower : -(2048 + coefficient.log2 : Int) ≤ exponent) :
    Float.ofScientific coefficient below count = .ofModel (.pack (signed .positive value)) := by
  have positive : 0 < coefficient := Nat.pos_of_ne_zero nonzero
  unfold Float.ofScientific
  split
  · next kept =>
    have left := holds_toFloat positive kept.1
    have right := holds_power (Nat.lt_succ_of_le kept.2)
    cases below with
    | false =>
      refine left.mul canonical right ?_
      rw [power, if_neg (by decide)] at rounds
      exact_mod_cast rounds
    | true =>
      refine left.div canonical right ?_
      rw [power, if_pos rfl, zpow_neg, ← div_eq_mul_inv] at rounds
      exact_mod_cast rounds
  · have exactly := ofScientific_eq canonical nonzero rounds upper lower
    have same : (if below then Int.negOfNat count else Int.ofNat count) = exponent := by
      rw [power, Int.negOfNat_eq]
      rfl
    dsimp only
    rw [same, Float.Model.ofScientific, exactly]

/-! ### Every path of the reader -/

/-- A number has as many digits as its size asks for. -/
theorem digitCount_bounds {n : Nat} (nonzero : n ≠ 0) :
    10 ^ (digitCount n - 1) ≤ n ∧ n < 10 ^ digitCount n := by
  have some : 0 < digitCount n := Nat.length_toDigits_pos
  constructor
  · by_contra fewer
    by_cases one : digitCount n = 1
    · rw [one] at fewer
      omega
    · have := (Nat.length_toDigits_le_iff (by decide) (by omega)).2 (Nat.lt_of_not_le fewer)
      rw [← digitCount] at this
      omega
  · exact (Nat.length_toDigits_le_iff (by decide) some).1 le_rfl

/-- A number has no more decimal digits than binary ones. -/
theorem digitCount_le (n : Nat) : digitCount n ≤ n.log2 + 1 :=
  (Nat.length_toDigits_le_iff (by decide) (by omega)).2
    (Nat.lt_log2_self.trans_le (Nat.pow_le_pow_left (by decide) _))

/-- What rounds to a double is neither nearer to zero nor larger than doubles are. -/
theorem range_of_rounds (canonical : value.Canonical) {x : Rat} (rounds : value.Rounds x) :
    (2 : Rat) ^ (-1075 : Int) ≤ x ∧ x < 2 ^ (1026 : Int) := by
  have unit : (0 : Rat) < 2 ^ value.exponent := by positivity
  obtain ⟨lower, upper, -, -⟩ := Binary.Canonical.near rounds
  have positive : (1 : Rat) ≤ value.significand := by exact_mod_cast canonical.positive
  have fits : (value.significand : Rat) + 1 ≤ 2 ^ 53 := by exact_mod_cast canonical.fits
  constructor
  · calc (2 : Rat) ^ (-1075 : Int) ≤ 2 ^ (value.exponent - 1) :=
          zpow_le_zpow_right₀ (by norm_num) (by have := canonical.leastExponent; omega)
      _ = 1 / 2 * 2 ^ value.exponent := by rw [zpow_sub_one₀ (by norm_num)]; ring
      _ ≤ x := by rw [← le_div_iff₀ unit]; linarith
  · calc x < 2 ^ 53 * 2 ^ value.exponent := by rw [← div_lt_iff₀ unit]; linarith
      _ = 2 ^ (53 + value.exponent) := by rw [zpow_add₀ (by norm_num)]; norm_cast
      _ ≤ 2 ^ (1026 : Int) :=
          zpow_le_zpow_right₀ (by norm_num) (by have := canonical.greatestExponent; omega)

/-- Three binary digits are worth less than a decimal one. -/
theorem two_zpow_le (count : Nat) : (2 : Rat) ^ (3 * count : Int) ≤ 10 ^ (count : Int) := by
  rw [zpow_mul, zpow_natCast, zpow_natCast]
  exact pow_le_pow_left₀ (by norm_num) (by norm_num) count

theorem ten_zpow_neg_le (count : Nat) :
    (10 : Rat) ^ (-count : Int) ≤ 2 ^ (-(3 * count : Int)) := by
  rw [zpow_neg, zpow_neg]
  exact inv_anti₀ (by positivity) (two_zpow_le count)

/-- The place of the leading digit of a decimal that rounds to a double. -/
theorem leading_of_rounds (canonical : value.Canonical) {coefficient : Nat} {exponent : Int}
    (nonzero : coefficient ≠ 0) (rounds : value.Rounds (coefficient * 10 ^ exponent)) :
    -farExponent ≤ exponent + digitCount coefficient ∧
      exponent + digitCount coefficient ≤ farExponent := by
  have unit : (0 : Rat) < 10 ^ exponent := by positivity
  obtain ⟨lower, upper⟩ := range_of_rounds canonical rounds
  obtain ⟨least, most⟩ := digitCount_bounds nonzero
  have some : 0 < digitCount coefficient := Nat.length_toDigits_pos
  constructor
  · have below : (coefficient : Rat) < 10 ^ (digitCount coefficient : Int) := by exact_mod_cast most
    have far := (ten_zpow_neg_le 359).trans (zpow_le_zpow_right₀ (by norm_num)
      (show -(3 * (359 : Nat) : Int) ≤ -1075 by norm_num))
    have powers : (10 : Rat) ^ (-(359 : Nat) : Int) < 10 ^ (digitCount coefficient + exponent) := by
      rw [zpow_add₀ (by norm_num)]
      exact far.trans_lt (lower.trans_lt (mul_lt_mul_of_pos_right below unit))
    have := (zpow_lt_zpow_iff_right₀ (by norm_num : (1 : Rat) < 10)).1 powers
    unfold farExponent
    omega
  · have above : (10 : Rat) ^ ((digitCount coefficient : Int) - 1) ≤ coefficient := by
      rw [← Nat.cast_one, ← Nat.cast_sub some]
      exact_mod_cast least
    have far := (zpow_le_zpow_right₀ (by norm_num)
      (show (1026 : Int) ≤ 3 * (342 : Nat) by norm_num)).trans (two_zpow_le 342)
    have powers : (10 : Rat) ^ ((digitCount coefficient : Int) - 1 + exponent) <
        10 ^ ((342 : Nat) : Int) := by
      rw [zpow_add₀ (by norm_num)]
      exact (mul_le_mul_of_nonneg_right above unit.le).trans_lt (upper.trans_le far)
    have := (zpow_lt_zpow_iff_right₀ (by norm_num : (1 : Rat) < 10)).1 powers
    unfold farExponent
    omega

/-- A decimal that rounds to a double is read as that double. -/
theorem nearestDouble_eq (canonical : value.Canonical) {coefficient : Nat} {exponent : Int}
    (rounds : value.Rounds (coefficient * 10 ^ exponent)) :
    nearestDouble coefficient exponent = .ofModel (.pack (signed .positive value)) := by
  have nonzero : coefficient ≠ 0 := by
    rintro rfl
    have positive := rounds.pos canonical.positive.ne'
    simp at positive
  obtain ⟨lower, upper⟩ := leading_of_rounds canonical nonzero rounds
  have some : 0 < digitCount coefficient := Nat.length_toDigits_pos
  have digits := digitCount_le coefficient
  unfold farExponent at lower upper
  unfold nearestDouble farExponent
  dsimp only
  rw [if_neg (by simp only [Bool.or_eq_true, decide_eq_true_eq, not_or]; omega), if_neg (by omega)]
  split
  · exact floatOfScientific_eq canonical nonzero false (by rw [if_neg (by decide)]; omega) rounds
      (by omega) (by omega)
  · exact floatOfScientific_eq canonical nonzero true (by rw [if_pos rfl]; omega) rounds
      (by omega) (by omega)

end MindMap.Decimal
