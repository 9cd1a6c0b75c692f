import MindMap.Json.Basic
import MindMap.Outline.Edit

/-!
# Stored documents

A document is stored as a JSON array of its roots. A node is an object; its children are left out when
there are none, its block and its note when it has none. When a document is read, fields that are missing
take the values of an expanded node without text at the origin; only the id cannot be missing. Fields that
nobody knows are ignored, a known one may not be repeated, and a record may also be given as an array of
its fields in order. Parts are nested no deeper than the JSON library follows them.

A document with a repeated id is refused.
-/

namespace MindMap

variable [JsonLibrary]

namespace Stored

/-- The fields of a node, in the order in which they are stored. -/
def nodeFields : List String :=
  ["id", "text", "x", "y", "children", "collapsed", "markdownMeta", "note"]

/-- The fields of a block, in the order in which they are stored. -/
def blockFields : List String := ["type", "level", "indentLevel"]

/-! ### Writing -/

/-- A number as stored. The infinities and NaN cannot be stored and become null. -/
def encodeNumber (x : Float) : Json :=
  if x.isFinite then .number (JsonLibrary.spellNumber x) else .null

/-- A small whole number as stored. -/
def encodeByte (n : UInt8) : Json := .number (JsonLibrary.spellByte n)

/-- A block as stored. -/
def encodeBlock (block : Block) : Json :=
  .ofFields
    [("type", .ofText block.kind.name),
     ("level", encodeByte block.level),
     ("indentLevel", encodeByte block.indent)]

/-- A node as stored, given its children as stored. -/
def encodeItem (item : Item) (children : List Json) : Json :=
  .ofFields <|
    [("id", .ofText item.id), ("text", .ofText item.text),
     ("x", encodeNumber item.x), ("y", encodeNumber item.y)]
    ++ (if children.isEmpty then [] else [("children", .array children)])
    ++ [("collapsed", .bool item.collapsed)]
    ++ (match item.block with
      | some block => [("markdownMeta", encodeBlock block)]
      | none => [])
    ++ (match item.note with
      | some note => [("note", .ofText note)]
      | none => [])

/-- The roots of a forest as stored. -/
def encodeRoots : Forest → List Json
  | .nil => []
  | .cons item children rest => encodeItem item (encodeRoots children) :: encodeRoots rest

/-- A document as stored. -/
def encode (document : Forest) : Json := .array (encodeRoots document)

/-! ### Reading -/

/-- The fields of a record: those of an object by key, or those of an array by position. -/
def fieldsOf? (names : List String) : Json → Option (List (String × Json))
  | .object fields => fields.mapM fun (key, value) => (JsonLibrary.text? key).map (·, value)
  | .array items => if items.length ≤ names.length then some (names.zip items) else none
  | _ => none

/-- The value of a field, which may not be repeated. -/
def field? (name : String) (fields : List (String × Json)) : Option (Option Json) :=
  match fields.filter (·.1 = name) with
  | [] => some none
  | [(_, value)] => some (some value)
  | _ => none

/-- The value of a field, read by `read`, or another value if it is missing. -/
def fieldOr? {α : Type} (name : String) (fields : List (String × Json)) (missing : α)
    (read : Json → Option α) : Option α := do
  match ← field? name fields with
  | some value => read value
  | none => return missing

/-- A value that may be null. -/
def orNull? {α : Type} (read : Json → Option α) : Json → Option (Option α)
  | .null => some none
  | value => (read value).map some

/-- A number. -/
def decodeNumber? : Json → Option Float
  | .number spelling => JsonLibrary.number? spelling
  | _ => none

/-- A small whole number. -/
def decodeByte? : Json → Option UInt8
  | .number spelling => JsonLibrary.byte? spelling
  | _ => none

/-- The kind of a block, by name or as an object, nested no deeper than `depth`, whose one field, null,
has that name. -/
def decodeKind? : Nat → Json → Option BlockKind
  | _, .string spelling => (JsonLibrary.text? spelling).bind BlockKind.ofName?
  | _ + 1, .object [(key, .null)] => (JsonLibrary.text? key).bind BlockKind.ofName?
  | _, _ => none

/-- A block, nested no deeper than `depth`. -/
def decodeBlock? : Nat → Json → Option Block
  | 0, _ => none
  | depth + 1, value => do
    let fields ← fieldsOf? blockFields value
    let some kind ← field? "type" fields | none
    return {
      kind := ← decodeKind? depth kind
      level := ← fieldOr? "level" fields 0 decodeByte?
      indent := ← fieldOr? "indentLevel" fields 0 decodeByte? }

/-- A node, nested no deeper than `depth`. -/
def decodeNode? : Nat → Json → Option Node
  | 0, _ => none
  | depth + 1, value => do
    let fields ← fieldsOf? nodeFields value
    let some id ← field? "id" fields | none
    let children ← fieldOr? "children" fields [] fun value =>
      match depth with
      | 0 => none
      | depth + 1 => value.array?.bind fun items => items.mapM (decodeNode? depth)
    return {
      id := ← id.text?
      text := ← fieldOr? "text" fields "" Json.text?
      x := ← fieldOr? "x" fields 0 decodeNumber?
      y := ← fieldOr? "y" fields 0 decodeNumber?
      collapsed := ← fieldOr? "collapsed" fields false Json.bool?
      block := ← fieldOr? "markdownMeta" fields none (orNull? (decodeBlock? depth))
      note := ← fieldOr? "note" fields none (orNull? Json.text?)
      children := .ofRoots children }

/-- The roots of a document, whose ids need not differ. -/
def decodeRoots? (value : Json) : Option Forest := do
  return .ofRoots (← (← value.array?).mapM (decodeNode? (JsonLibrary.nestingLimit - 1)))

end Stored

/-- Why a stored document cannot be used. -/
inductive DocumentError where
  /-- It is no document at all. -/
  | malformed
  | edit (error : EditError)
deriving DecidableEq, Repr

/-- What the error tells the user. -/
def DocumentError.message : DocumentError → String
  | .malformed => "not a mind map"
  | .edit error => error.message

/-- The document that a JSON value stands for. -/
def Forest.ofJson (value : Json) : Except DocumentError Forest :=
  match Stored.decodeRoots? value with
  | none => .error .malformed
  | some document =>
    match document.checkDistinct with
    | .ok document => .ok document
    | .error error => .error (.edit error)

/-- The document that a text holds. -/
def Forest.ofText (text : String) : Except DocumentError Forest :=
  match JsonLibrary.read? text with
  | some value => Forest.ofJson value
  | none => .error .malformed

/-- A document as text, without any space. -/
def Forest.compactText (document : Forest) : String :=
  JsonLibrary.write .compact (Stored.encode document)

/-- A document as text, spread over lines. -/
def Forest.prettyText (document : Forest) : String :=
  JsonLibrary.write .pretty (Stored.encode document)

end MindMap
