/-!
# JSON values

A JSON value as it is written, less the space between its parts: numbers and texts keep their spelling, and
an object keeps its fields in order, repeated ones included. What a spelling means is asked for where it is
used, so a part of a document that nobody uses is never judged.

Values are written as text, and read, by a `JsonLibrary`, which alone knows how numbers and texts are
spelled. Nothing is assumed of it here; `JsonLibrary.ReadsBack` says what can be relied on where a value that
was written is read again.
-/

namespace MindMap

/-- A JSON value. -/
inductive Json where
  | null
  | bool (b : Bool)
  /-- A number as spelled. -/
  | number (spelling : String)
  /-- A text as spelled between its quotes, escapes included. -/
  | string (spelling : String)
  | array (items : List Json)
  /-- Fields with their keys as spelled. -/
  | object (fields : List (String × Json))
deriving Inhabited

/-- How a value is spread over its text. -/
inductive JsonLayout where
  /-- Without any space. -/
  | compact
  /-- Over lines. -/
  | pretty
deriving DecidableEq, Repr

/-- What writes JSON values as text and reads them. -/
class JsonLibrary where
  /-- How deep arrays and objects may be nested in what is read. -/
  nestingLimit : Nat
  /-- A finite number as spelled. -/
  spellNumber : Float → String
  /-- The number that a spelling stands for. -/
  number? : String → Option Float
  /-- A small whole number as spelled. -/
  spellByte : UInt8 → String
  /-- The small whole number that a spelling stands for. -/
  byte? : String → Option UInt8
  /-- A text as spelled between its quotes. -/
  spellText : String → String
  /-- The text that a spelling stands for. -/
  text? : String → Option String
  /-- A value as text. -/
  write : JsonLayout → Json → String
  /-- The value that a text holds. -/
  read? : String → Option Json

namespace Json

/-- The truth value of a value that is one. -/
def bool? : Json → Option Bool
  | .bool b => some b
  | _ => none

/-- The items of an array. -/
def array? : Json → Option (List Json)
  | .array items => some items
  | _ => none

mutual

/-- How deep arrays and objects are nested in a value. -/
def nesting : Json → Nat
  | .array items => 1 + nestingOfItems items
  | .object fields => 1 + nestingOfFields fields
  | _ => 0

/-- How deep arrays and objects are nested in one of some items. -/
def nestingOfItems : List Json → Nat
  | [] => 0
  | item :: items => max item.nesting (nestingOfItems items)

/-- How deep arrays and objects are nested in the value of one of some fields. -/
def nestingOfFields : List (String × Json) → Nat
  | [] => 0
  | (_, value) :: fields => max value.nesting (nestingOfFields fields)

end

variable [JsonLibrary]

/-- A text as a value. -/
def ofText (text : String) : Json := .string (JsonLibrary.spellText text)

/-- The text of a value that is one. -/
def text? : Json → Option String
  | .string spelling => JsonLibrary.text? spelling
  | _ => none

/-- A field of an object with its key spelled as a text. -/
def field (key : String) (value : Json) : String × Json := (JsonLibrary.spellText key, value)

/-- An object with the given fields. -/
def ofFields (fields : List (String × Json)) : Json :=
  .object (fields.map fun (key, value) => field key value)

/-- The value is made of spellings of finite numbers, of small whole numbers and of texts. -/
inductive Spelled : Json → Prop where
  | null : Spelled .null
  | bool (b : Bool) : Spelled (.bool b)
  | number {x : Float} (finite : x.isFinite = true) : Spelled (.number (JsonLibrary.spellNumber x))
  | byte (n : UInt8) : Spelled (.number (JsonLibrary.spellByte n))
  | text (text : String) : Spelled (ofText text)
  | array {items : List Json} (spelled : ∀ item ∈ items, Spelled item) : Spelled (.array items)
  | object {fields : List (String × Json)} (spelled : ∀ entry ∈ fields, Spelled entry.2) :
    Spelled (ofFields fields)

end Json

/-- What a library writes it reads back as the same: finite numbers, small whole numbers and texts from
their spellings, and values made of such spellings from their text, if they are not nested too deep. -/
structure JsonLibrary.ReadsBack [JsonLibrary] : Prop where
  number {x : Float} (finite : x.isFinite = true) : number? (spellNumber x) = some x
  byte (n : UInt8) : byte? (spellByte n) = some n
  text (text : String) : text? (spellText text) = some text
  value (layout : JsonLayout) {value : Json} (spelled : value.Spelled)
    (fits : value.nesting ≤ nestingLimit) : read? (write layout value) = some value

end MindMap
