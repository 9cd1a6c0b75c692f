import MindMap.Text.Given

/-!
# The line being edited

One line of text with a cursor in it, kept as the text before the cursor and the text after it. The cursor
moves over whole pieces of those two texts, as `Segmentation` cuts them; typing puts characters before it.
-/

namespace MindMap

/-- A line with a cursor between two parts of it. -/
structure EditLine where
  before : String
  after : String
deriving DecidableEq, Repr

namespace EditLine

/-- No text. -/
def empty : EditLine := ⟨"", ""⟩

instance : Inhabited EditLine := ⟨empty⟩

/-- The whole text. -/
def text (line : EditLine) : String := line.before ++ line.after

/-- The number of bytes before the cursor. -/
def cursor (line : EditLine) : Nat := line.before.utf8ByteSize

/-- The cursor before a text. -/
def atStart (text : String) : EditLine := ⟨"", text⟩

/-- The cursor after a text. -/
def atEnd (text : String) : EditLine := ⟨text, ""⟩

/-- Type a character. -/
def type (line : EditLine) (c : Char) : EditLine := { line with before := line.before.push c }

variable [Segmentation]

/-- A text less its last piece, and that piece. -/
def splitLast (text : String) : String × String :=
  let pieces := Segmentation.pieces text.toList
  (.ofList pieces.dropLast.flatten, .ofList (pieces.getLast?.getD []))

/-- The first piece of a text, and the rest. -/
def splitFirst (text : String) : String × String :=
  let pieces := Segmentation.pieces text.toList
  (.ofList (pieces.head?.getD []), .ofList pieces.tail.flatten)

/-- Delete the piece before the cursor. -/
def deleteBefore (line : EditLine) : EditLine :=
  { line with before := (splitLast line.before).1 }

/-- Delete the piece after the cursor. -/
def deleteAfter (line : EditLine) : EditLine :=
  { line with after := (splitFirst line.after).2 }

/-- Move the cursor over the piece before it. -/
def left (line : EditLine) : EditLine :=
  let (rest, piece) := splitLast line.before
  ⟨rest, piece ++ line.after⟩

/-- Move the cursor over the piece after it. -/
def right (line : EditLine) : EditLine :=
  let (piece, rest) := splitFirst line.after
  ⟨line.before ++ piece, rest⟩

/-- Move the cursor before the text. -/
def home (line : EditLine) : EditLine := atStart line.text

/-- Move the cursor after the text. -/
def toEnd (line : EditLine) : EditLine := atEnd line.text

end EditLine

end MindMap
