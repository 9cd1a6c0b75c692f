/-!
# Decimals as written

A decimal is an optional sign, digits with at most one point among them, and an optional exponent. Here it
is taken apart; what number it stands for is decided by whoever reads it.

Only ASCII digits have a value here.
-/

namespace MindMap.Decimal

/-- A decimal as written. -/
structure Numeral where
  negative : Bool
  /-- The digits before the point. -/
  whole : List Char
  /-- The digits after the point. -/
  fraction : List Char
  /-- The exponent that is written, or zero. -/
  power : Int
deriving DecidableEq, Repr

/-- The value of an ASCII digit. -/
def digitValue (c : Char) : Nat := c.toNat - '0'.toNat

/-- The value of a list of ASCII digits. -/
def valueOf (digits : List Char) : Nat :=
  digits.foldl (fun value c => 10 * value + digitValue c) 0

/-- A size with the sign of a numeral. -/
def Numeral.signed (number : Numeral) (size : Float) : Float :=
  if number.negative then -size else size

/-- Take a sign off the front of a text: whether it was a minus, and the rest. -/
def takeSign : List Char → Bool × List Char
  | '-' :: rest => (true, rest)
  | '+' :: rest => (false, rest)
  | text => (false, text)

/-- An exponent is absent, or a mark, an optional sign and at least one digit up to the end. -/
def readExponent? : List Char → Option Int
  | [] => some 0
  | mark :: rest =>
    if mark = 'e' || mark = 'E' then
      let (negative, digits) := takeSign rest
      if !digits.isEmpty && digits.all Char.isDigit then
        some (if negative then -(valueOf digits : Int) else valueOf digits)
      else none
    else none

/-- Read digits, perhaps with a point, and an exponent. At least one digit stands before or after the
point. -/
def readNumeral? (text : List Char) : Option Numeral :=
  let (negative, unsigned) := takeSign text
  let whole := unsigned.takeWhile Char.isDigit
  let afterWhole := unsigned.dropWhile Char.isDigit
  let (fraction, tail) := match afterWhole with
    | '.' :: rest => (rest.takeWhile Char.isDigit, rest.dropWhile Char.isDigit)
    | rest => ([], rest)
  if whole.isEmpty && fraction.isEmpty then none
  else (readExponent? tail).map fun power => ⟨negative, whole, fraction, power⟩

end MindMap.Decimal
