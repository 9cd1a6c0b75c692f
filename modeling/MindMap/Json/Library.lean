import MindMap.Decimal.Layout
import MindMap.Decimal.Reader
import MindMap.Json.Reader
import MindMap.Json.Writer

/-!
# The JSON library of the program

The library that the program is started with: texts are spelled with the escapes they need and no others,
numbers by their shortest decimals, and read as the doubles nearest to them. A number beyond every finite
double has a spelling that stands for none.
-/

namespace MindMap.Json

/-- The finite number that a spelling stands for. -/
def numberOf? (spelling : String) : Option Float :=
  (Decimal.read? spelling.toList).filter Float.isFinite

/-- The whole number below 256 that is spelled with digits alone. -/
def byteOf? (spelling : String) : Option UInt8 :=
  if spelling.toList.all Char.isDigit && Decimal.valueOf spelling.toList < 256 then
    some (.ofNat (Decimal.valueOf spelling.toList))
  else none

/-- The text that a spelling stands for. -/
def textOf? (spelling : String) : Option String := (unescape? spelling.toList).map String.ofList

/-- The library of the program. -/
@[reducible] def library : JsonLibrary where
  nestingLimit := 127
  spellNumber := Decimal.write .stored
  number? := numberOf?
  spellByte n := toString n.toNat
  byte? := byteOf?
  spellText text := .ofList (escape text.toList)
  text? := textOf?
  write
    | .compact => compact
    | .pretty => pretty
  read? := parse?

end MindMap.Json
