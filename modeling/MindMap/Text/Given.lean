/-!
# What is taken as given of texts

Two questions about texts have no answer in this library: how wide a text is on a screen, and where the
characters that a reader sees in it begin and end. `TextWidth` and `Segmentation` stand for answers to them.
Whatever lays text out or edits it works with any answers, and the program is given those of Unicode where
it is started.

Nothing is assumed of widths; in particular they need not add up. Of a segmentation it is assumed that it
cuts a text into pieces that follow one another, none of them empty.
-/

namespace MindMap

/-- How many cells of a screen texts take. -/
class TextWidth where
  width : String → Nat

/-- Where the characters that a reader sees begin and end. -/
class Segmentation where
  /-- The pieces of a text, in order. -/
  pieces : List Char → List (List Char)
  /-- The pieces follow one another and make up the text. -/
  flatten_pieces (text : List Char) : (pieces text).flatten = text
  /-- No piece is empty. -/
  nil_not_mem_pieces (text : List Char) : [] ∉ pieces text

/-- Every character takes one cell, as those of plain English do. -/
@[reducible] def TextWidth.perCharacter : TextWidth := ⟨String.length⟩

/-- Every character is a piece, as in plain English. -/
@[reducible] def Segmentation.perCharacter : Segmentation where
  pieces text := text.map ([·])
  flatten_pieces text := by induction text <;> simp_all
  nil_not_mem_pieces text := by simp

/-- The pieces of a text as texts. -/
def Segmentation.texts [Segmentation] (text : String) : List String :=
  (pieces text.toList).map String.ofList

end MindMap
