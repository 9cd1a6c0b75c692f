import Mathlib
import MindMap.Proofs.Decimal.Rounding

/-!
# Doubles and their bits

The bits of a double are taken apart twice: by `Binary.ofBits`, from which its text is written,
and by the unpacking on which the arithmetic of doubles rests. Both see the same significand and
exponent. Packing and unpacking undo each other, on finite doubles in the one order and on
canonical parts in the other.

NaN and the infinities are only told apart from the finite doubles here.
-/

namespace MindMap.Decimal

open Float.Model Float.Model.UnpackedFloat

/-! ### Fields -/

/-- The sign of the bits of a double. -/
abbrev signField (bits : BitVec 64) : Sign := .ofBitVec (@unpackSign .binary64 bits)

/-- The exponent field of the bits of a double. -/
abbrev exponentField (bits : BitVec 64) : BitVec 11 := @unpackExponent .binary64 bits

/-- The fraction field of the bits of a double. -/
abbrev fractionField (bits : BitVec 64) : BitVec 52 := @unpackMantissa .binary64 bits

/-- The magnitude that an exponent field and a fraction field stand for. -/
def Binary.ofFields (exponent fraction : Nat) : Binary :=
  if exponent = 0 then ⟨fraction, -1074, false⟩
  else ⟨0x10000000000000 + fraction, (exponent : Int) - 1075, fraction == 0 && exponent > 1⟩

/-- The fields of a double are those of its unpacking. -/
theorem ofBits_eq (bits : UInt64) :
    Binary.ofBits bits =
      .ofFields (exponentField bits.toBitVec).toNat (fractionField bits.toBitVec).toNat := by
  have exponent : (exponentField bits.toBitVec).toNat = ((bits >>> 52) &&& 0x7FF).toNat := by
    simp only [unpackExponent, BitVec.toNat_cast, BitVec.extractLsb_toNat, UInt64.toNat_and,
      UInt64.toNat_shiftRight, UInt64.toNat_toBitVec, Nat.shiftRight_eq_div_pow]
    exact (Nat.and_two_pow_sub_one_eq_mod _ 11).symm
  have fraction : (fractionField bits.toBitVec).toNat = (bits &&& 0xFFFFFFFFFFFFF).toNat := by
    simp only [unpackMantissa, BitVec.toNat_cast, BitVec.extractLsb_toNat, UInt64.toNat_and,
      UInt64.toNat_toBitVec, Nat.shiftRight_zero]
    exact (Nat.and_two_pow_sub_one_eq_mod _ 52).symm
  rw [exponent, fraction]
  rfl

theorem signField_eq (bits : UInt64) :
    signField bits.toBitVec = if bits >>> 63 = 1 then .negative else .positive := by
  have same : (@unpackSign .binary64 bits.toBitVec).toNat = (bits >>> 63).toNat := by
    have small := bits.toNat_lt
    change (bits.toNat >>> 63) % 2 ^ 1 = bits.toNat >>> 63
    rw [Nat.shiftRight_eq_div_pow]
    omega
  have bit := (@unpackSign .binary64 bits.toBitVec).isLt
  simp only [Sign.ofBitVec, ← BitVec.toNat_inj, ← UInt64.toNat_inj, same, BitVec.toNat_zero,
    UInt64.toNat_one] at bit ⊢
  split <;> split <;> first | rfl | omega

/-! ### Packing and unpacking -/

variable {exponent : BitVec 11} {fraction : BitVec 52}

theorem toNat_ne_of_ne (finite : exponent ≠ -1#11) : exponent.toNat ≠ 2047 := fun all =>
  finite (BitVec.toNat_inj.1 all)

/-- The fields of a double that is not zero are canonical. -/
theorem canonical_ofFields (finite : exponent ≠ -1#11)
    (nonzero : (Binary.ofFields exponent.toNat fraction.toNat).significand ≠ 0) :
    (Binary.ofFields exponent.toNat fraction.toNat).Canonical := by
  have small := exponent.isLt
  have short := fraction.isLt
  have inside := toNat_ne_of_ne finite
  unfold Binary.ofFields at nonzero ⊢
  split at nonzero <;> rename_i subnormal
  · rw [if_pos subnormal]
    exact ⟨Nat.pos_of_ne_zero nonzero, show fraction.toNat < 2 ^ 53 by omega, by simp, by simp,
      .inr rfl, by simp⟩
  · rw [if_neg subnormal]
    refine ⟨by simp, by simp; omega, by simp; omega, by simp; omega, .inl (by simp), ?_⟩
    simp
    omega

/-- The implicit first digit stands in front of the fraction. -/
theorem toNat_one_append (fraction : BitVec 52) :
    (1#1 ++ fraction).toNat = 2 ^ 52 + fraction.toNat := by
  have joined := Nat.two_pow_add_eq_or_of_lt fraction.isLt 1
  rw [BitVec.toNat_append]
  simpa [Nat.one_shiftLeft] using joined.symm

/-- The number that finite bits stand for, with its sign. -/
def signed (sign : Sign) (value : Binary) : UnpackedFloat :=
  if nonzero : value.significand = 0 then .zero sign
  else .finite sign value.significand value.exponent (Nat.pos_of_ne_zero nonzero)

theorem unpack_packComponents (sign : Sign) (fraction : BitVec 52) (finite : exponent ≠ -1#11) :
    UnpackedFloat.unpack .binary64 (packComponents .binary64 sign exponent fraction) =
      signed sign (.ofFields exponent.toNat fraction.toNat) := by
  unfold UnpackedFloat.unpack
  simp only [unpackExponent_packComponents, unpackMantissa_packComponents,
    unpackSign_packComponents, Sign.ofBitVec_toBitVec]
  rw [if_neg finite]
  unfold signed Binary.ofFields
  by_cases subnormal : exponent = 0#11
  · subst subnormal
    rw [if_pos rfl]
    by_cases zero : fraction = 0#52
    · subst zero
      rfl
    · have nonzero : fraction.toNat ≠ 0 := fun is => zero (BitVec.toNat_inj.1 is)
      simp [zero, nonzero]
      rfl
  · have normal : exponent.toNat ≠ 0 := fun is => subnormal (BitVec.toNat_inj.1 is)
    rw [if_neg subnormal]
    simp [normal, toNat_one_append]
    rfl

theorem pack_signed (sign : Sign) (finite : exponent ≠ -1#11) :
    UnpackedFloat.pack .binary64 (signed sign (.ofFields exponent.toNat fraction.toNat)) =
      packComponents .binary64 sign exponent fraction := by
  have number : isNaNBits (packComponents .binary64 sign exponent fraction) = false :=
    decide_eq_false fun isNaN => finite (unpackExponent_packComponents.symm.trans isNaN.1)
  rw [← unpack_packComponents sign fraction finite, pack_unpack, number, if_neg Bool.false_ne_true]

/-! ### Magnitudes of doubles -/

/-- A magnitude that finite bits stand for. -/
def Binary.IsDouble (value : Binary) : Prop :=
  ∃ (exponent : BitVec 11) (fraction : BitVec 52),
    exponent ≠ -1#11 ∧ value = .ofFields exponent.toNat fraction.toNat

theorem Binary.IsDouble.canonical {value : Binary} (isDouble : value.IsDouble)
    (nonzero : value.significand ≠ 0) : value.Canonical := by
  obtain ⟨exponent, fraction, finite, rfl⟩ := isDouble
  exact canonical_ofFields finite nonzero

/-- Whatever is in canonical form fits the fields of a double. -/
theorem Binary.Canonical.isDouble {value : Binary} (canonical : value.Canonical) :
    value.IsDouble := by
  obtain ⟨significand, exponent, narrowBelow⟩ := value
  obtain ⟨positive, fits, least, greatest, full, narrow⟩ := canonical
  dsimp only at positive fits least greatest full narrow
  by_cases normal : 2 ^ 52 ≤ significand
  · refine ⟨.ofNat 11 (exponent + 1075).toNat, .ofNat 52 (significand - 2 ^ 52), ?_, ?_⟩
    · intro all
      have := congrArg BitVec.toNat all
      simp at this
      omega
    · have field : (BitVec.ofNat 11 (exponent + 1075).toNat).toNat = (exponent + 1075).toNat := by
        rw [BitVec.toNat_ofNat, Nat.mod_eq_of_lt (by omega)]
      have digits : (BitVec.ofNat 52 (significand - 2 ^ 52)).toNat = significand - 2 ^ 52 := by
        rw [BitVec.toNat_ofNat, Nat.mod_eq_of_lt (by omega)]
      rw [field, digits, ofFields, if_neg (by omega), Binary.mk.injEq]
      refine ⟨by omega, by omega, ?_⟩
      rw [Bool.eq_iff_iff, narrow]
      simp only [Bool.and_eq_true, beq_iff_eq, decide_eq_true_eq]
      omega
  · have digits : (BitVec.ofNat 52 significand).toNat = significand := by
      rw [BitVec.toNat_ofNat, Nat.mod_eq_of_lt (by omega)]
    refine ⟨0#11, .ofNat 52 significand, by decide, ?_⟩
    rw [digits, ofFields, if_pos (by simp), Binary.mk.injEq]
    refine ⟨rfl, by omega, ?_⟩
    rw [Bool.eq_iff_iff, narrow]
    simp
    omega

theorem unpack_pack {value : Binary} (isDouble : value.IsDouble) (sign : Sign) :
    (Float.Model.pack (signed sign value)).unpack = signed sign value := by
  obtain ⟨exponent, fraction, finite, rfl⟩ := isDouble
  change UnpackedFloat.unpack .binary64 (UnpackedFloat.pack .binary64 _) = _
  rw [pack_signed sign finite, unpack_packComponents sign fraction finite]

/-- The sign of a double. -/
def signOf (x : Float) : Sign := if x.toBits >>> 63 = 1 then .negative else .positive

variable {x : Float}

theorem exponentField_ne (finite : x.isFinite = true) :
    exponentField x.toBits.toBitVec ≠ -1#11 := by
  intro all
  have unpacked : x.toModel.unpack.isFinite = true := finite
  unfold Float.Model.unpack UnpackedFloat.unpack at unpacked
  rw [show x.toModel.toBits = x.toBits from rfl, if_pos all] at unpacked
  split at unpacked <;> cases unpacked

theorem isDouble_ofBits (finite : x.isFinite = true) : (Binary.ofBits x.toBits).IsDouble :=
  ⟨_, _, exponentField_ne finite, ofBits_eq x.toBits⟩

/-- A finite double is unpacked into its sign and its magnitude. -/
theorem unpack_toModel (finite : x.isFinite = true) :
    x.toModel.unpack = signed (signOf x) (.ofBits x.toBits) := by
  have bits : packComponents .binary64 (signOf x) (exponentField x.toBits.toBitVec)
      (fractionField x.toBits.toBitVec) = x.toBits.toBitVec := by
    rw [signOf, ← signField_eq]
    exact packComponents_unpackSign_unpackExponent_unpackMantissa _
  have unpacked := unpack_packComponents (signOf x) (fractionField x.toBits.toBitVec)
    (exponentField_ne finite)
  rwa [bits, ← ofBits_eq] at unpacked

/-- A finite double is made of its sign and its magnitude. -/
theorem ofModel_pack (finite : x.isFinite = true) :
    Float.ofModel (.pack (signed (signOf x) (.ofBits x.toBits))) = x := by
  rw [← unpack_toModel finite]
  exact Float.ofBits_toBits x

/-- The opposite of a double has the other sign. -/
theorem neg_ofModel_pack {value : Binary} (isDouble : value.IsDouble) (sign : Sign) :
    -Float.ofModel (.pack (signed sign value)) = Float.ofModel (.pack (signed (-sign) value)) := by
  have unpacked := unpack_pack isDouble sign
  have opposite : (signed sign value).neg = signed (-sign) value := by
    unfold signed
    split <;> rfl
  change Float.ofModel (.pack (Float.Model.pack (signed sign value)).unpack.neg) = _
  rw [unpacked, opposite]

end MindMap.Decimal
