import MindMap.Terminal.Cell

/-!
# Lines that wrap

A line too long for its place goes on in the next one, between words if possible. Blanks are kept, but
those at which a line is broken go. A line of blanks alone takes an empty line before it.

`Wrapping` is a line as far as it has been read: the lines that are full, the line begun, then blanks, and
then a word that may still grow and so move to the next line.
-/

namespace MindMap

variable [TextWidth]

/-- Whether a cell separates words. A no-break space does not, and an invisible space does. -/
def Cell.isBreak (cell : Cell) : Bool :=
  cell.symbol = "\u200b" ||
    (cell.symbol.toList.all Text.isBlank && cell.symbol ≠ "\u00a0")

/-- The width of cells beside one another. -/
def cellsWidth : List Cell → Nat
  | [] => 0
  | cell :: rest => cell.width + cellsWidth rest

/-- A line that is being wrapped. -/
structure Wrapping where
  full : List (List Cell)
  line : List Cell
  blanks : List Cell
  word : List Cell
  /-- Whether the character read last belongs to a word. -/
  inWord : Bool
deriving Repr, Inhabited

namespace Wrapping

/-- Nothing is read yet. -/
def start : Wrapping := ⟨[], [], [], [], false⟩

/-- Take the blanks and the word into the line. -/
def commit (wrapping : Wrapping) : Wrapping :=
  { wrapping with
    line := wrapping.line ++ wrapping.blanks ++ wrapping.word
    blanks := []
    word := [] }

/-- The blanks left when a line is broken with `room` cells to spare: those that fit go. -/
def blanksAfterBreak : List Cell → Nat → List Cell
  | [], _ => []
  | cell :: rest, room =>
    if room < cell.width then cell :: rest else blanksAfterBreak rest (room - cell.width)

/-- End the line, in which `width` cells fit. -/
def breakLine (wrapping : Wrapping) (width : Nat) : Wrapping :=
  { wrapping with
    full := wrapping.full ++ [wrapping.line]
    line := []
    blanks := blanksAfterBreak wrapping.blanks (width - cellsWidth wrapping.line) }

/-- Read a cell to where it belongs for now. -/
def push (wrapping : Wrapping) (cell : Cell) : Wrapping :=
  if cell.isBreak then { wrapping with blanks := wrapping.blanks ++ [cell], inWord := false }
  else { wrapping with word := wrapping.word ++ [cell], inWord := true }

/-- Read a cell, where `width` cells fit in a line. A cell that is wider is left out. -/
def read (width : Nat) (wrapping : Wrapping) (cell : Cell) : Wrapping :=
  if width < cell.width then wrapping
  else
    let pending := cellsWidth wrapping.blanks + cellsWidth wrapping.word
    let wordEnds := wrapping.inWord && cell.isBreak
    let overflows := wrapping.line.isEmpty && width < pending + cell.width
    let committed := if wordEnds || overflows then wrapping.commit else wrapping
    let lineWidth := cellsWidth committed.line
    let pendingWidth := cellsWidth committed.blanks + cellsWidth committed.word
    if width ≤ lineWidth || (0 < cell.width && width ≤ lineWidth + pendingWidth) then
      let broken := committed.breakLine width
      if cell.isBreak && broken.blanks.isEmpty then broken else broken.push cell
    else committed.push cell

/-- The lines once all is read. There is at least one. -/
def finish (wrapping : Wrapping) : List (List Cell) :=
  let onlyBlanks :=
    wrapping.line.isEmpty && wrapping.word.isEmpty && !wrapping.blanks.isEmpty
  let last := wrapping.commit.line
  let all := wrapping.full ++ (if onlyBlanks then [[]] else [])
    ++ (if last.isEmpty then [] else [last])
  if all.isEmpty then [[]] else all

end Wrapping

/-- A line in as many lines of `width` cells as it takes. -/
def wrapped (width : Nat) (cells : List Cell) : List (List Cell) :=
  (cells.foldl (Wrapping.read width) .start).finish

end MindMap
