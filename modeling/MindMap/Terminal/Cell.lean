import MindMap.Text.Blank
import MindMap.Text.Given

/-!
# Cells of a screen

A cell shows one piece of a text, which may take the next cells too, and may be highlighted. A text
becomes cells once it is known how it is drawn; control characters are drawn as they are, one cell each,
and a line feed alone is not drawn.
-/

namespace MindMap

variable [TextWidth]

/-- A cell of a screen. -/
structure Cell where
  symbol : String
  highlighted : Bool
deriving DecidableEq, Repr

/-- A cell that shows nothing. -/
def Cell.blank : Cell := ⟨" ", false⟩

instance : Inhabited Cell := ⟨.blank⟩

/-- How many cells the symbol takes. -/
def Cell.width (cell : Cell) : Nat := TextWidth.width cell.symbol

/-- Text that is highlighted or not. -/
structure Span where
  text : String
  highlighted : Bool := false
deriving DecidableEq, Repr

namespace Span

/-- How many cells the text takes. -/
def width (span : Span) : Nat := TextWidth.width span.text

/-- The pieces of the text that are drawn. -/
def cells [Segmentation] (span : Span) : List Cell :=
  ((Segmentation.texts span.text).filter (· ≠ "\n")).map (⟨·, span.highlighted⟩)

end Span

/-- What is left to show of a line in `width` cells when `used` of them are taken. -/
def cutAfter (width used : Nat) : List Cell → List Cell
  | [] => []
  | cell :: rest =>
    if width < cell.width then cutAfter width used rest
    else if width < used + cell.width then []
    else cell :: cutAfter width (used + cell.width) rest

/-- The part of a line that `width` cells can show: up to the first cell that does not fit, without those
wider than all of it. -/
def cut (width : Nat) (cells : List Cell) : List Cell := cutAfter width 0 cells

end MindMap
