import MindMap.Json.Basic
import MindMap.Json.Escape

/-!
# Reading JSON

Reads exactly the texts of the JSON grammar, with any space between their parts and none but space after
the value. Every step takes at least one character, so the length of the text bounds the steps.
-/

namespace MindMap.Json

/-- Space between the parts of a JSON text. -/
def isSpace (c : Char) : Bool := c = ' ' || c = '\n' || c = '\t' || c = '\r'

/-- A text without its leading space. -/
def skipSpace (text : List Char) : List Char := text.dropWhile isSpace

/-- Read the spelling of a text up to its closing quote, given its reversed beginning. Escapes must be
complete; whether a half of a pair has its other half is not looked at. -/
def readSpelling? (before : List Char) : List Char → Option (String × List Char)
  | [] => none
  | '"' :: rest => some (.ofList before.reverse, rest)
  | '\\' :: 'u' :: a :: b :: c :: d :: rest =>
    if (hexUnit? a b c d).isSome then
      readSpelling? (d :: c :: b :: a :: 'u' :: '\\' :: before) rest
    else none
  | '\\' :: c :: rest =>
    if (simpleEscape? c).isSome then readSpelling? (c :: '\\' :: before) rest else none
  | c :: rest => if isControl c then none else readSpelling? (c :: before) rest

/-- Split the digits off the front of a text. -/
def takeDigits (text : List Char) : List Char × List Char :=
  (text.takeWhile Char.isDigit, text.dropWhile Char.isDigit)

/-- The whole part of a number: one zero, or digits that begin with none. -/
def readWhole? (text : List Char) : Option (List Char × List Char) :=
  match text with
  | '0' :: rest =>
    match rest with
    | c :: _ => if c.isDigit then none else some (['0'], rest)
    | [] => some (['0'], rest)
  | c :: _ => if c.isDigit then some (takeDigits text) else none
  | [] => none

/-- The part of a number after its point, if it has one. -/
def readFraction? (text : List Char) : Option (List Char × List Char) :=
  match text with
  | '.' :: rest =>
    let (digits, rest) := takeDigits rest
    if digits.isEmpty then none else some ('.' :: digits, rest)
  | _ => some ([], text)

/-- Split a sign off the front of a text. -/
def splitSign : List Char → List Char × List Char
  | '+' :: rest => (['+'], rest)
  | '-' :: rest => (['-'], rest)
  | text => ([], text)

/-- The exponent of a number, if it has one. -/
def readPower? (text : List Char) : Option (List Char × List Char) :=
  match text with
  | mark :: rest =>
    if mark = 'e' || mark = 'E' then
      let (sign, rest) := splitSign rest
      let (digits, rest) := takeDigits rest
      if digits.isEmpty then none else some (mark :: sign ++ digits, rest)
    else some ([], text)
  | [] => some ([], text)

/-- Read the spelling of a number. -/
def readNumber? (text : List Char) : Option (String × List Char) := do
  let (minus, unsigned) := match text with
    | '-' :: rest => (['-'], rest)
    | _ => ([], text)
  let (whole, rest) ← readWhole? unsigned
  let (fraction, rest) ← readFraction? rest
  let (power, rest) ← readPower? rest
  return (.ofList (minus ++ whole ++ fraction ++ power), rest)

mutual

/-- Read a value, after any space. -/
def readValue? : Nat → List Char → Option (Json × List Char)
  | 0, _ => none
  | fuel + 1, text =>
    match skipSpace text with
    | 'n' :: 'u' :: 'l' :: 'l' :: rest => some (.null, rest)
    | 't' :: 'r' :: 'u' :: 'e' :: rest => some (.bool true, rest)
    | 'f' :: 'a' :: 'l' :: 's' :: 'e' :: rest => some (.bool false, rest)
    | '"' :: rest => (readSpelling? [] rest).map fun (spelling, rest) => (.string spelling, rest)
    | '[' :: rest =>
      match skipSpace rest with
      | ']' :: rest => some (.array [], rest)
      | rest => (readItems? fuel rest).map fun (items, rest) => (.array items, rest)
    | '{' :: rest =>
      match skipSpace rest with
      | '}' :: rest => some (.object [], rest)
      | rest => (readFields? fuel rest).map fun (fields, rest) => (.object fields, rest)
    | text => (readNumber? text).map fun (spelling, rest) => (.number spelling, rest)

/-- Read the items of an array that has some, and its closing bracket. -/
def readItems? : Nat → List Char → Option (List Json × List Char)
  | 0, _ => none
  | fuel + 1, text =>
    match readValue? fuel text with
    | none => none
    | some (item, rest) =>
      match skipSpace rest with
      | ',' :: rest => (readItems? fuel rest).map fun (items, rest) => (item :: items, rest)
      | ']' :: rest => some ([item], rest)
      | _ => none

/-- Read the fields of an object that has some, and its closing brace. -/
def readFields? : Nat → List Char → Option (List (String × Json) × List Char)
  | 0, _ => none
  | fuel + 1, text =>
    match skipSpace text with
    | '"' :: rest =>
      match readSpelling? [] rest with
      | none => none
      | some (key, rest) =>
        match skipSpace rest with
        | ':' :: rest =>
          match readValue? fuel rest with
          | none => none
          | some (value, rest) =>
            match skipSpace rest with
            | ',' :: rest =>
              (readFields? fuel rest).map fun (fields, rest) => ((key, value) :: fields, rest)
            | '}' :: rest => some ([(key, value)], rest)
            | _ => none
        | _ => none
    | _ => none

end

/-- Read a text that holds one value and nothing else. -/
def parse? (text : String) : Option Json :=
  let text := text.toList
  match readValue? (2 * text.length + 2) text with
  | some (value, rest) => if (skipSpace rest).isEmpty then some value else none
  | none => none

end MindMap.Json
