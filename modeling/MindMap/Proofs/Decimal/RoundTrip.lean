import MindMap.Proofs.Decimal.Nearest

/-!
# Numbers round-trip through text

Whatever the layout, the text of a finite double is a spelled numeral, and the double nearest to
that numeral is the double itself, the sign of zero included.
-/

namespace MindMap.Decimal

open Float.Model Float.Model.UnpackedFloat

variable {x : Float}

theorem isNaN_eq_false (finite : x.isFinite = true) : x.isNaN = false := by
  change x.toModel.unpack.isNaN = false
  rw [unpack_toModel finite, signed]
  split <;> rfl

theorem isInf_eq_false (finite : x.isFinite = true) : x.isInf = false := by
  change x.toModel.unpack.isInf = false
  rw [unpack_toModel finite, signed]
  split <;> rfl

/-- The text of a magnitude. Only zero has no shortest decimal. -/
def magnitudeText (layout : Layout) (value : Binary) : List Char :=
  if value.significand = 0 then writePositional layout.pointZero ['0'] 0
  else writeDigits layout (shortest layout.tie value)

/-- A finite double is written as its sign and its magnitude. -/
theorem toList_write (layout : Layout) (finite : x.isFinite = true) :
    (write layout x).toList =
      minusSign (x.toBits >>> 63 = 1) ++ magnitudeText layout (.ofBits x.toBits) := by
  unfold write
  rw [isNaN_eq_false finite, isInf_eq_false finite]
  simp [minusSign, magnitudeText]

/-- The numeral that is written for a magnitude is nearest to that magnitude. -/
theorem writes_magnitudeText (layout : Layout) {value : Binary} (isDouble : value.IsDouble)
    (negative : Bool) :
    ∃ number : Numeral, number.negative = negative ∧
      SpellsUnsigned number (magnitudeText layout value) ∧
      nearestDouble (valueOf (number.whole ++ number.fraction))
          (number.power - number.fraction.length) =
        .ofModel (.pack (signed .positive value)) := by
  unfold magnitudeText
  split
  · next zero =>
    obtain ⟨number, sign, spells, magnitude⟩ := writes_zero layout.pointZero negative
    refine ⟨number, sign, spells, ?_⟩
    have none : valueOf (number.whole ++ number.fraction) = 0 := by
      rw [Numeral.magnitude, mul_eq_zero] at magnitude
      exact_mod_cast magnitude.resolve_right (by positivity)
    rw [none, signed, dif_pos zero]
    have positiveZero : (0.0 : Float) = .ofModel (.pack (.zero .positive)) := by decide +kernel
    simp [nearestDouble, positiveZero]
  · next nonzero =>
    obtain ⟨number, sign, spells, magnitude⟩ :=
      writes_digits layout (shortest_ne_zero layout.tie nonzero) negative
    refine ⟨number, sign, spells, ?_⟩
    refine nearestDouble_eq (isDouble.canonical nonzero) ?_
    have rounds := rounds_shortest layout.tie nonzero
    rwa [← magnitude] at rounds

/-- The text of a finite double spells a numeral to which the double itself is nearest. -/
theorem spells_write (layout : Layout) (finite : x.isFinite = true) :
    ∃ number : Numeral, Spells number (write layout x).toList ∧ number.nearest = x := by
  have isDouble := isDouble_ofBits finite
  obtain ⟨number, sign, spells, nearest⟩ :=
    writes_magnitudeText layout isDouble (x.toBits >>> 63 = 1)
  refine ⟨number, ?_, ?_⟩
  · rw [toList_write layout finite, ← sign]
    exact .intro spells
  · rw [Numeral.nearest, nearest, Numeral.signed, sign]
    conv_rhs => rw [← ofModel_pack finite]
    rw [signOf]
    simp only [decide_eq_true_eq]
    split
    · exact neg_ofModel_pack isDouble .positive
    · rfl

/-- Every finite double is read from the text that is written for it. -/
theorem read?_write (layout : Layout) (finite : x.isFinite = true) :
    read? (write layout x).toList = some x := by
  obtain ⟨number, spells, nearest⟩ := spells_write layout finite
  rw [read?, spells.readNumeral?]
  exact congrArg some nearest

end MindMap.Decimal
