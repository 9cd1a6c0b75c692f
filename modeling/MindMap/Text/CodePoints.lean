/-!
# Sets of code points

A Unicode property is a set of code points, and most properties are long runs. `CodePoints` keeps such
a set as its *boundaries*: the strictly increasing list of code points at which membership changes,
starting outside. Membership is then the parity of the boundaries passed.

The property tables of this library are values of this type; nothing here depends on which property
a table holds.
-/

namespace MindMap.Text

/-- A set of code points, given by the points where membership flips. -/
structure CodePoints where
  /-- Strictly increasing; membership starts at the first, ends at the second, and so on. -/
  ofBoundaries ::
  boundaries : List Nat
deriving Inhabited

namespace CodePoints

/-- Walk the boundaries up to `code`, flipping membership at each one passed. -/
def insideAfter (code : Nat) : List Nat → Bool → Bool
  | [], inside => inside
  | boundary :: rest, inside =>
    if code < boundary then inside else insideAfter code rest (!inside)

/-- Whether the set holds the character. -/
def contains (set : CodePoints) (c : Char) : Bool :=
  insideAfter c.toNat set.boundaries false

@[simp] theorem insideAfter_nil (code : Nat) (inside : Bool) :
    insideAfter code [] inside = inside := rfl

/-- Below the first boundary nothing has flipped yet. -/
theorem insideAfter_of_lt {code boundary : Nat} {rest : List Nat} {inside : Bool}
    (below : code < boundary) : insideAfter code (boundary :: rest) inside = inside := by
  simp [insideAfter, below]

/-- A boundary that is passed flips membership. -/
theorem insideAfter_of_le {code boundary : Nat} {rest : List Nat} {inside : Bool}
    (passed : boundary ≤ code) :
    insideAfter code (boundary :: rest) inside = insideAfter code rest (!inside) := by
  simp [insideAfter, Nat.not_lt.mpr passed]

end CodePoints

end MindMap.Text
