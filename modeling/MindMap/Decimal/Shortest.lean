/-!
# Shortest decimals of binary fractions

A double stands for every real number that rounds to it. Of the decimals among those, the one to show
has as few digits as possible and, of several that short, is nearest to the double itself. Two such
decimals can be equally near; `Tie` says which one is taken.

Everything is exact arithmetic on natural numbers. A grid is the set of multiples of one power of ten;
grids are tried from coarse to fine, and on each the only candidates are the two neighbours of the
value. Zero, the infinities and NaN are no concern of this module.
-/

namespace MindMap.Decimal

/-- The positive number `significand * 2 ^ exponent`. -/
structure Binary where
  significand : Nat
  exponent : Int
  /-- Whether the next smaller double is only half as far away as the next larger one. -/
  narrowBelow : Bool
deriving DecidableEq, Repr

/-- The magnitude that the bits of a finite double stand for. -/
def Binary.ofBits (bits : UInt64) : Binary :=
  let exponent := ((bits >>> 52) &&& 0x7FF).toNat
  let fraction := (bits &&& 0xFFFFFFFFFFFFF).toNat
  if exponent = 0 then ⟨fraction, -1074, false⟩
  else ⟨0x10000000000000 + fraction, (exponent : Int) - 1075, fraction == 0 && exponent > 1⟩

/-- The number `coefficient * 10 ^ exponent`. -/
structure Digits where
  coefficient : Nat
  exponent : Int
deriving DecidableEq, Repr

/-- Which of two equally near decimals is taken. -/
inductive Tie where
  | toEven
  | upward
deriving DecidableEq, Repr

/-- A grid of multiples of `10 ^ exponent`, brought to a common unit with quarters of a double's last
place: the point `n` of the grid and `k` quarters compare as `n * point` and `k * quarter`. -/
structure Grid where
  exponent : Int
  point : Nat
  quarter : Nat

namespace Binary

/-- The multiples of `10 ^ exponent`, measured against `value`. -/
def grid (value : Binary) (exponent : Int) : Grid where
  exponent := exponent
  point := Nat.pow 10 exponent.toNat * Nat.pow 2 (2 - value.exponent).toNat
  quarter := Nat.pow 2 (value.exponent - 2).toNat * Nat.pow 10 (-exponent).toNat

/-- The lower end of the reals that round to `value`, in quarters. -/
def lowest (value : Binary) : Nat :=
  4 * value.significand - (if value.narrowBelow then 1 else 2)

/-- The upper end of the reals that round to `value`, in quarters. -/
def highest (value : Binary) : Nat := 4 * value.significand + 2

/-- Whether the ends themselves round to `value`. -/
def endsBelong (value : Binary) : Bool := value.significand % 2 == 0

/-- Whether a point of the grid rounds to `value`. -/
def admits (value : Binary) (grid : Grid) (n : Nat) : Bool :=
  let low := value.lowest * grid.quarter
  let high := value.highest * grid.quarter
  let here := n * grid.point
  if value.endsBelong then low ≤ here && here ≤ high else low < here && here < high

/-- Whether to take the point above rather than the one below, given the distances to the two. -/
def prefersAbove (tie : Tie) (below fromBelow fromAbove : Nat) : Bool :=
  if fromBelow = fromAbove then tie == .upward || below % 2 == 1 else decide (fromAbove < fromBelow)

/-- The point of the grid nearest to `value` among its two neighbours that round to it. -/
def nearest? (value : Binary) (tie : Tie) (grid : Grid) : Option Digits :=
  let exact := 4 * value.significand * grid.quarter
  let below := exact / grid.point
  let above := below + 1
  let fromBelow := exact - below * grid.point
  let fromAbove := above * grid.point - exact
  let takeAbove := prefersAbove tie below fromBelow fromAbove
  match value.admits grid below, value.admits grid above with
  | true, true => some ⟨if takeAbove then above else below, grid.exponent⟩
  | true, false => some ⟨below, grid.exponent⟩
  | false, true => some ⟨above, grid.exponent⟩
  | false, false => none

/-- Whether the value reaches `10 ^ exponent`. -/
def reaches (value : Binary) (exponent : Int) : Bool :=
  let grid := value.grid exponent
  grid.point ≤ 4 * value.significand * grid.quarter

/-- The decimal exponent of the leading digit. -/
def leadingExponent (value : Binary) : Int :=
  let estimate := ((value.significand.log2 + value.exponent) * 30103).fdiv 100000
  if value.reaches (estimate + 1) then estimate + 1
  else if value.reaches estimate then estimate
  else estimate - 1

/-- The value itself as a decimal; every binary fraction is one. -/
def exact (value : Binary) : Digits :=
  if 0 ≤ value.exponent then ⟨value.significand * Nat.pow 2 value.exponent.toNat, 0⟩
  else ⟨value.significand * Nat.pow 5 (-value.exponent).toNat, value.exponent⟩

end Binary

/-- Drop trailing zeros from a coefficient, at most `fuel` of them. -/
def Digits.stripZeros : Nat → Digits → Digits
  | 0, digits => digits
  | fuel + 1, digits =>
    if digits.coefficient ≠ 0 ∧ digits.coefficient % 10 = 0 then
      stripZeros fuel ⟨digits.coefficient / 10, digits.exponent + 1⟩
    else digits

/-- The most digits a double ever needs. -/
def enoughDigits : Nat := 17

/-- The shortest decimal that rounds to `value`. -/
def shortest (tie : Tie) (value : Binary) : Digits :=
  let leading := value.leadingExponent
  let found := (List.range enoughDigits).findSome? fun (count : Nat) =>
    value.nearest? tie (value.grid (leading - count))
  (found.getD value.exact).stripZeros 800

/-- What the selection returns rounds back to the value, on the grid it was found on. -/
theorem admits_of_nearest? {value : Binary} {tie : Tie} {grid : Grid} {digits : Digits}
    (found : value.nearest? tie grid = some digits) :
    digits.exponent = grid.exponent ∧ value.admits grid digits.coefficient = true := by
  unfold Binary.nearest? at found
  simp only at found
  split at found
  · next below above =>
    obtain rfl := Option.some.inj found
    refine ⟨rfl, ?_⟩
    dsimp only
    split
    · exact above
    · exact below
  · next below _ => obtain rfl := Option.some.inj found; exact ⟨rfl, below⟩
  · next _ above => obtain rfl := Option.some.inj found; exact ⟨rfl, above⟩
  · cases found

end MindMap.Decimal
