import Mathlib

/-!
# The order of doubles

Two doubles are compared by their kinds first, then by exponent and significand, and the other way
round where both are negative. `standing?` gives every double but NaN a place in one linear order, and
a comparison of doubles is one of their places. So the laws of an order hold of doubles, save that the
two zeros share a place and that NaN has none: of two doubles that are not NaN, if the one is not at
most the other, the other is less.

Arithmetic plays no part here. Exponent and significand are compared as they come.
-/

namespace MindMap

open Float.Model

namespace FloatOrder

/-- A place in the order of doubles: kind, exponent, significand. -/
abbrev Standing := ℤ ×ₗ ℤ ×ₗ ℤ

/-- The place of the parts of a double. Both zeros have the same, and NaN has none. -/
def standing? : UnpackedFloat → Option Standing
  | .infinity .negative => some (toLex (-2, toLex (0, 0)))
  | .finite .negative significand exponent _ =>
    some (toLex (-1, toLex (-exponent, -significand)))
  | .zero _ => some (toLex (0, toLex (0, 0)))
  | .finite .positive significand exponent _ => some (toLex (1, toLex (exponent, significand)))
  | .infinity .positive => some (toLex (2, toLex (0, 0)))
  | .notANumber => none

/-- The parts of two doubles are at places that are so related. -/
def Stand (related : Standing → Standing → Prop) (one other : UnpackedFloat) : Prop :=
  ∃ place ∈ standing? one, ∃ otherPlace ∈ standing? other, related place otherPlace

section

variable {e f : ℤ} {m n : ℕ}

theorem then_compare_eq_lt_iff :
    (compare e f).then (compare m n) = .lt ↔ e < f ∨ e = f ∧ m < n := by
  rw [Ordering.then_eq_lt, compare_eq_iff_eq, compare_lt_iff_lt, compare_lt_iff_lt]

theorem then_compare_eq_gt_iff :
    (compare e f).then (compare m n) = .gt ↔ f < e ∨ e = f ∧ n < m := by
  rw [Ordering.then_eq_gt, compare_eq_iff_eq, compare_gt_iff_gt, compare_gt_iff_gt]

theorem isLE_then_compare_iff :
    ((compare e f).then (compare m n)).isLE = true ↔ e < f ∨ e = f ∧ m ≤ n := by
  have notGreater := not_congr (then_compare_eq_gt_iff (e := e) (f := f) (m := m) (n := n))
  rw [← Ordering.ne_gt_iff_isLE]
  exact notGreater.trans (by omega)

theorem isGE_then_compare_iff :
    ((compare e f).then (compare m n)).isGE = true ↔ f < e ∨ e = f ∧ n ≤ m := by
  have notLess := not_congr (then_compare_eq_lt_iff (e := e) (f := f) (m := m) (n := n))
  rw [← Ordering.ne_lt_iff_isGE]
  exact notLess.trans (by omega)

end

theorem compare_signs : compare UnpackedFloat.Sign.negative .negative = .eq ∧
    compare UnpackedFloat.Sign.negative .positive = .lt ∧
    compare UnpackedFloat.Sign.positive .negative = .gt ∧
    compare UnpackedFloat.Sign.positive .positive = .eq := by decide

theorem unpacked_lt_iff (one other : UnpackedFloat) :
    one.lt other = true ↔ Stand (· < ·) one other := by
  unfold UnpackedFloat.lt Stand
  rcases one with (_ | _) | _ | _ | ⟨_ | _, m, e, _⟩ <;>
    rcases other with (_ | _) | _ | _ | ⟨_ | _, n, f, _⟩ <;>
    simp [UnpackedFloat.compare, compare_signs, standing?, Prod.Lex.toLex_lt_toLex,
      then_compare_eq_lt_iff, then_compare_eq_gt_iff]

theorem unpacked_le_iff (one other : UnpackedFloat) :
    one.le other = true ↔ Stand (· ≤ ·) one other := by
  unfold UnpackedFloat.le Stand
  rcases one with (_ | _) | _ | _ | ⟨_ | _, m, e, _⟩ <;>
    rcases other with (_ | _) | _ | _ | ⟨_ | _, n, f, _⟩ <;>
    simp [UnpackedFloat.compare, compare_signs, standing?, Prod.Lex.toLex_le_toLex,
      isLE_then_compare_iff, isGE_then_compare_iff]

/-! ### Comparisons of doubles -/

variable {x y z : Float}

theorem lt_iff_stand : x < y ↔ Stand (· < ·) x.toModel.unpack y.toModel.unpack := by
  change decide _ = true ↔ _
  rw [decide_eq_true_iff]
  exact unpacked_lt_iff _ _

theorem le_iff_stand : x ≤ y ↔ Stand (· ≤ ·) x.toModel.unpack y.toModel.unpack := by
  change decide _ = true ↔ _
  rw [decide_eq_true_iff]
  exact unpacked_le_iff _ _

theorem exists_standing (number : x.isNaN = false) :
    ∃ place, standing? x.toModel.unpack = some place := by
  change x.toModel.unpack.isNaN = false at number
  generalize x.toModel.unpack = parts at number
  rcases parts with (_ | _) | _ | _ | ⟨_ | _, m, e, _⟩
  case notANumber => cases number
  all_goals exact ⟨_, rfl⟩

/-- Doubles that are not NaN can be compared. -/
theorem lt_of_not_le (xNumber : x.isNaN = false) (yNumber : y.isNaN = false) (notLe : ¬y ≤ x) :
    x < y := by
  obtain ⟨place, isPlace⟩ := exists_standing xNumber
  obtain ⟨other, isOther⟩ := exists_standing yNumber
  rw [lt_iff_stand]
  refine ⟨place, isPlace, other, isOther, ?_⟩
  by_contra notLess
  exact notLe (le_iff_stand.mpr ⟨other, isOther, place, isPlace, not_lt.mp notLess⟩)

theorem le_of_lt (less : x < y) : x ≤ y := by
  obtain ⟨place, isPlace, other, isOther, ordered⟩ := lt_iff_stand.mp less
  exact le_iff_stand.mpr ⟨place, isPlace, other, isOther, ordered.le⟩

theorem not_le_of_lt (less : x < y) : ¬y ≤ x := by
  intro atMost
  obtain ⟨place, isPlace, other, isOther, ordered⟩ := lt_iff_stand.mp less
  obtain ⟨again, isAgain, first, isFirst, back⟩ := le_iff_stand.mp atMost
  cases Option.mem_unique isPlace isFirst
  cases Option.mem_unique isOther isAgain
  exact absurd back ordered.not_ge

theorem lt_of_lt_of_le (less : x < y) (atMost : y ≤ z) : x < z := by
  obtain ⟨place, isPlace, middle, isMiddle, ordered⟩ := lt_iff_stand.mp less
  obtain ⟨again, isAgain, last, isLast, further⟩ := le_iff_stand.mp atMost
  cases Option.mem_unique isMiddle isAgain
  exact lt_iff_stand.mpr ⟨place, isPlace, last, isLast, ordered.trans_le further⟩

end FloatOrder

end MindMap
