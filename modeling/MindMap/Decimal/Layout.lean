import MindMap.Decimal.Shortest

/-!
# Numbers as text

A number is shown by its shortest decimal. `Layout` holds what a place that shows numbers decides for
itself: which magnitudes are written positionally and which with an exponent, whether a whole number
keeps a point, and which of two equally near decimals is taken.
-/

namespace MindMap.Decimal

/-- How a place writes numbers. -/
structure Layout where
  /-- Whether a number is written positionally, by the decimal exponent of its leading digit. -/
  positional : Int → Bool
  /-- Whether a whole number, written positionally, ends in a point and a zero. -/
  pointZero : Bool
  tie : Tie

/-- Numbers in messages and answers: always positional, and whole numbers have no point. -/
def Layout.plain : Layout where
  positional _ := true
  pointZero := false
  tie := .upward

/-- Numbers in stored documents: positional between a hundred-thousandth and ten to the sixteenth,
with an exponent elsewhere, and whole numbers keep a point. -/
def Layout.stored : Layout where
  positional exponent := -5 ≤ exponent && exponent < 16
  pointZero := true
  tie := .toEven

/-- `count` zeros. -/
def zeros (count : Nat) : List Char := .replicate count '0'

/-- The decimal digits of a number. -/
def digitChars (n : Nat) : List Char := Nat.toDigits 10 n

/-- Digits with the point put where the exponent says. -/
def writePositional (pointZero : Bool) (digits : List Char) (exponent : Int) : List Char :=
  if 0 ≤ exponent then
    digits ++ zeros exponent.toNat ++ (if pointZero then ['.', '0'] else [])
  else
    let places := (-exponent).toNat
    if places < digits.length then
      digits.take (digits.length - places) ++ '.' :: digits.drop (digits.length - places)
    else '0' :: '.' :: zeros (places - digits.length) ++ digits

/-- Digits with the point after the first and a signed exponent. -/
def writeScientific (digits : List Char) (leading : Int) : List Char :=
  let mantissa := match digits with
    | [] => []
    | [first] => [first]
    | first :: rest => first :: '.' :: rest
  mantissa ++ 'e' :: (if leading < 0 then '-' else '+') :: digitChars leading.natAbs

/-- A positive number, laid out. -/
def writeDigits (layout : Layout) (number : Digits) : List Char :=
  let digits := digitChars number.coefficient
  let leading := number.exponent + digits.length - 1
  if layout.positional leading then writePositional layout.pointZero digits number.exponent
  else writeScientific digits leading

/-- A number as text. -/
def write (layout : Layout) (x : Float) : String :=
  if x.isNaN then "NaN"
  else
    let bits := x.toBits
    let sign := if bits >>> 63 = 1 then ['-'] else []
    let magnitude :=
      if x.isInf then ['i', 'n', 'f']
      else
        let value := Binary.ofBits bits
        if value.significand = 0 then writePositional layout.pointZero ['0'] 0
        else writeDigits layout (shortest layout.tie value)
    .ofList (sign ++ magnitude)

end MindMap.Decimal
