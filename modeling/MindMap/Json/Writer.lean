import MindMap.Json.Basic

/-!
# Writing JSON

A value is written without any space, or spread over lines with two spaces for each level of nesting. Both
are one function: it takes the nesting at which lines are broken, or nothing if they are not, and the text
that comes after the value.
-/

namespace MindMap.Json

/-- A line break with its indentation, where lines are broken. -/
def lineBreak : Option Nat → List Char
  | none => []
  | some depth => '\n' :: .replicate (2 * depth) ' '

/-- What stands between a key and its value. -/
def colon : Option Nat → List Char
  | none => [':']
  | some _ => [':', ' ']

/-- The nesting inside a value. -/
def deeper (depth : Option Nat) : Option Nat := depth.map (· + 1)

/-- A spelling in quotes, and then `rest`. -/
def emitQuoted (spelling : String) (rest : List Char) : List Char :=
  '"' :: (spelling.toList ++ '"' :: rest)

mutual

/-- A value, and then `rest`. -/
def emit (depth : Option Nat) : Json → List Char → List Char
  | .null, rest => 'n' :: 'u' :: 'l' :: 'l' :: rest
  | .bool true, rest => 't' :: 'r' :: 'u' :: 'e' :: rest
  | .bool false, rest => 'f' :: 'a' :: 'l' :: 's' :: 'e' :: rest
  | .number spelling, rest => spelling.toList ++ rest
  | .string spelling, rest => emitQuoted spelling rest
  | .array [], rest => '[' :: ']' :: rest
  | .array (item :: items), rest =>
    '[' :: (lineBreak (deeper depth)
      ++ emit (deeper depth) item (emitItems (deeper depth) items
        (lineBreak depth ++ ']' :: rest)))
  | .object [], rest => '{' :: '}' :: rest
  | .object ((key, value) :: fields), rest =>
    '{' :: (lineBreak (deeper depth)
      ++ emitQuoted key (colon depth
        ++ emit (deeper depth) value (emitFields (deeper depth) fields
          (lineBreak depth ++ '}' :: rest))))

/-- Further items of an array, and then `rest`. -/
def emitItems (depth : Option Nat) : List Json → List Char → List Char
  | [], rest => rest
  | item :: items, rest =>
    ',' :: (lineBreak depth ++ emit depth item (emitItems depth items rest))

/-- Further fields of an object, and then `rest`. -/
def emitFields (depth : Option Nat) : List (String × Json) → List Char → List Char
  | [], rest => rest
  | (key, value) :: fields, rest =>
    ',' :: (lineBreak depth
      ++ emitQuoted key (colon depth ++ emit depth value (emitFields depth fields rest)))

end

/-- A value without any space. -/
def compact (value : Json) : String := .ofList (emit none value [])

/-- A value spread over lines. -/
def pretty (value : Json) : String := .ofList (emit (some 0) value [])

end MindMap.Json
