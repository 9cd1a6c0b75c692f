import MindMap.Decimal.Layout
import MindMap.Decimal.Reader
import MindMap.Text.DecimalDigit

/-!
# Argument values

A word of a command line is read as a value by its shape alone. `true` and `false` are truth values.
Decimal digits, perhaps after a minus, are an integer if they are ASCII and fit in 64 bits, and stay a
text otherwise, so that no digit is lost. Digits with a point before at least one of them are a number.
Everything else is a text, less one pair of matching quotes around it. An id such as `node-42` is a text.
-/

namespace MindMap.CommandLine

/-- A typed argument value. -/
inductive Value where
  | text (content : String)
  /-- An integer of 64 bits, sign included. -/
  | integer (n : Int)
  | number (x : Float)
  | truth (b : Bool)
  /-- A text that has been checked to name a node. -/
  | nodeId (id : String)

instance : Inhabited Value := ⟨.truth false⟩

/-- The least integer of 64 bits. -/
def leastInteger : Int := -9223372036854775808

/-- The greatest integer of 64 bits. -/
def greatestInteger : Int := 9223372036854775807

/-- Take a minus off the front of a word: whether there was one, and the rest. -/
def takeMinus : List Char → Bool × List Char
  | '-' :: rest => (true, rest)
  | word => (false, word)

/-- Digits of any script, perhaps after a minus. -/
def isIntegerShape (word : List Char) : Bool :=
  let digits := (takeMinus word).2
  !digits.isEmpty && digits.all Text.isDecimalDigit

/-- Digits of any script, perhaps after a minus, with a point before at least one of them. -/
def isNumberShape (word : List Char) : Bool :=
  match (takeMinus word).2.dropWhile Text.isDecimalDigit with
  | '.' :: digits => !digits.isEmpty && digits.all Text.isDecimalDigit
  | _ => false

/-- Read an integer of 64 bits from ASCII digits, perhaps after a minus. -/
def readInteger? (word : List Char) : Option Int :=
  let (negative, digits) := takeMinus word
  if !digits.isEmpty && digits.all Char.isDigit then
    let size : Int := Decimal.valueOf digits
    let n := if negative then -size else size
    if leastInteger ≤ n && n ≤ greatestInteger then some n else none
  else none

/-- A word without the quotes around it, if `quote` stands at both ends. -/
def stripQuote? (quote : Char) (word : List Char) : Option (List Char) :=
  match word with
  | first :: rest =>
    if first = quote && rest.getLast? = some quote then some rest.dropLast else none
  | [] => none

/-- A word without one pair of matching quotes around it; double quotes are looked for first. -/
def stripQuotes (word : String) : String :=
  match stripQuote? '"' word.toList with
  | some inner => .ofList inner
  | none =>
    match stripQuote? '\'' word.toList with
    | some inner => .ofList inner
    | none => word

namespace Value

/-- Read a word by its shape. -/
def ofWord (word : String) : Value :=
  if word = "true" then .truth true
  else if word = "false" then .truth false
  else if isIntegerShape word.toList then
    match readInteger? word.toList with
    | some n => .integer n
    | none => .text word
  else if isNumberShape word.toList then
    match Decimal.read? word.toList with
    | some x => .number x
    | none => .text (stripQuotes word)
  else .text (stripQuotes word)

/-- The name of the argument type that a value has by itself. -/
def typeName : Value → String
  | .text _ => "string"
  | .integer _ | .number _ => "number"
  | .truth _ => "boolean"
  | .nodeId _ => "node-id"

/-- A value as text. -/
def display : Value → String
  | .text content | .nodeId content => content
  | .integer n => toString n
  | .number x => Decimal.write .plain x
  | .truth true => "true"
  | .truth false => "false"

/-- The text of a text or a node id. -/
def text? : Value → Option String
  | .text content | .nodeId content => some content
  | _ => none

/-- The integer of an integer. -/
def integer? : Value → Option Int
  | .integer n => some n
  | _ => none

/-- The number of an integer or a number; a large integer goes to the nearest double. -/
def number? : Value → Option Float
  | .integer n => some (Float.ofInt n)
  | .number x => some x
  | _ => none

/-- The truth of a truth value. -/
def truth? : Value → Option Bool
  | .truth b => some b
  | _ => none

end Value

end MindMap.CommandLine
