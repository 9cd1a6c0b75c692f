import MindMap.Decimal.Numeral

/-!
# Numbers from text

A decimal stands for the double nearest to it, ties to even. The words for infinity and for NaN are read
too, in any case, so that every number can be read from the text that shows it.
-/

namespace MindMap.Decimal

/-- The number of decimal digits of a number, and at least one. -/
def digitCount (n : Nat) : Nat := (Nat.toDigits 10 n).length

/-- No double but zero is smaller, and none is larger, than ten to this power away from one. -/
def farExponent : Int := 400

/-- The double nearest to `coefficient * 10 ^ exponent`. Magnitudes beyond every double are settled
without computing the power of ten. -/
def nearestDouble (coefficient : Nat) (exponent : Int) : Float :=
  let leading := exponent + digitCount coefficient
  if coefficient = 0 || leading < -farExponent then 0.0
  else if farExponent < leading then 1.0 / 0.0
  else if 0 ≤ exponent then Float.ofScientific coefficient false exponent.toNat
  else Float.ofScientific coefficient true (-exponent).toNat

/-- The double nearest to a numeral. -/
def Numeral.nearest (number : Numeral) : Float :=
  number.signed <|
    nearestDouble (valueOf (number.whole ++ number.fraction))
      (number.power - number.fraction.length)

/-- Whether a text is one of some words, in any ASCII case. -/
def isWord (words : List String) (text : List Char) : Bool :=
  words.contains (.ofList (text.map Char.toLower))

/-- Read a number: a numeral, or a signed word for infinity or NaN. -/
def read? (text : List Char) : Option Float :=
  match readNumeral? text with
  | some number => some number.nearest
  | none =>
    let (negative, unsigned) := takeSign text
    if isWord ["inf", "infinity"] unsigned then
      some (if negative then -(1.0 / 0.0) else 1.0 / 0.0)
    else if isWord ["nan"] unsigned then some (0.0 / 0.0)
    else none

end MindMap.Decimal
