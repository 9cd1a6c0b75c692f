import MindMap.Terminal.Wrapped
import MindMap.Text.Lines

/-!
# Character grids

A screen is a grid of cells. A symbol of several cells is put in the first, and reading the grid passes
over the others. Drawing outside the grid does nothing.

Lines of text and titles are drawn by different rules. In a line, a cluster without width is not shown. In
a title, it is shown in the cell before it, and the cells that a symbol covers are blank.
-/

namespace MindMap

variable [TextWidth] [Segmentation]

/-- A rectangle of cells. -/
structure Area where
  x : Nat
  y : Nat
  width : Nat
  height : Nat
deriving DecidableEq, Repr

/-- The rectangle inside a border of one cell. -/
def Area.inner (area : Area) : Area :=
  ⟨area.x + 1, area.y + 1, area.width - 2, area.height - 2⟩

/-- Rows of cells. -/
structure Grid where
  rows : Array (Array Cell)

namespace Grid

/-- A grid of blank cells. -/
def ofSize (width height : Nat) : Grid := ⟨.replicate height (.replicate width .blank)⟩

/-- Change the cell at a place. -/
def modify (grid : Grid) (x y : Nat) (change : Cell → Cell) : Grid :=
  ⟨grid.rows.modify y fun row => row.modify x change⟩

/-- Show a cell at a place. -/
def put (grid : Grid) (x y : Nat) (cell : Cell) : Grid := grid.modify x y fun _ => cell

/-- Show a symbol in a cell after what it shows. -/
def append (grid : Grid) (x y : Nat) (symbol : String) : Grid :=
  grid.modify x y fun cell => { cell with symbol := cell.symbol ++ symbol }

/-- Show one symbol in all cells of a rectangle. -/
def fill (grid : Grid) (area : Area) (symbol : String) : Grid :=
  (List.range area.height).foldl
    (fun grid dy => (List.range area.width).foldl
      (fun grid dx => grid.put (area.x + dx) (area.y + dy) ⟨symbol, false⟩) grid)
    grid

/-! ### Lines -/

/-- Show the cells of a line in row `y` from `x` on. -/
def writeCells (grid : Grid) (y : Nat) : List Cell → Nat → Grid
  | [], _ => grid
  | cell :: rest, x =>
    if cell.width = 0 then grid.writeCells y rest x
    else (grid.put x y cell).writeCells y rest (x + cell.width)

/-- Show lines in a rectangle, as many as fit. -/
def writeRows (grid : Grid) (area : Area) (rows : List (List Cell)) : Grid :=
  if area.width = 0 then grid
  else (rows.take area.height).zipIdx.foldl
    (fun grid (cells, row) => grid.writeCells (area.y + row) cells area.x) grid

/-- Show lines of text in a rectangle, cut at its right edge. -/
def writeLines (grid : Grid) (area : Area) (lines : List (List Span)) : Grid :=
  grid.writeRows area (lines.map fun spans => cut area.width (spans.flatMap Span.cells))

/-- Show lines of text in a rectangle, wrapped at its right edge. -/
def writeWrapped (grid : Grid) (area : Area) (lines : List (List Span)) : Grid :=
  grid.writeRows area (lines.flatMap fun spans => wrapped area.width (spans.flatMap Span.cells))

/-! ### Titles -/

/-- Show cells of a title in row `y` from `x` on, up to the column `limit`. The first of them stands at
`start`, and one that does not fit ends the title. -/
def writeTitleCells (grid : Grid) (start limit y : Nat) : List Cell → Nat → Bool → Grid
  | [], _, _ => grid
  | cell :: rest, x, first =>
    let next := x + cell.width
    if limit < next then grid
    else
      let shown :=
        if first then grid.put x y cell
        else if x = start then grid.append x y cell.symbol
        else if cell.width = 0 then grid.append (x - 1) y cell.symbol
        else grid.put x y cell
      let covered := (List.range (cell.width - 1)).foldl
        (fun grid dx => grid.put (x + 1 + dx) y .blank) shown
      covered.writeTitleCells start limit y rest next false

/-- Show the pieces of a title from column `x` on, each after the whole width of the one before it. A
piece without width is not shown. -/
def writeTitlePieces (grid : Grid) (limit y : Nat) : List Span → Nat → Grid
  | [], _ => grid
  | span :: rest, x =>
    if span.width = 0 then grid.writeTitlePieces limit y rest x
    else if limit ≤ x then grid
    else (grid.writeTitleCells x limit y span.cells x true).writeTitlePieces limit y rest
      (x + span.width)

/-- Show a title in the first row of a rectangle. The lines of the title are its pieces, and it takes as
many cells as they, or all there are. -/
def writeTitle (grid : Grid) (area : Area) (title : String) : Grid :=
  let pieces := (Text.lines title).map fun line => (⟨line, false⟩ : Span)
  let width := min (pieces.foldr (fun piece width => piece.width + width) 0) area.width
  if area.height = 0 then grid
  else grid.writeTitlePieces (area.x + width) area.y pieces area.x

/-- Draw a border with a title along the inside of a rectangle. -/
def box (grid : Grid) (area : Area) (title : String) : Grid :=
  if area.width = 0 || area.height = 0 then grid
  else
    let right := area.x + area.width - 1
    let bottom := area.y + area.height - 1
    let sides := grid
      |>.fill { area with width := 1 } "│"
      |>.fill { area with height := 1 } "─"
      |>.fill { area with x := right, width := 1 } "│"
      |>.fill { area with y := bottom, height := 1 } "─"
    let corners := sides
      |>.put right bottom ⟨"┘", false⟩
      |>.put right area.y ⟨"┐", false⟩
      |>.put area.x bottom ⟨"└", false⟩
      |>.put area.x area.y ⟨"┌", false⟩
    corners.writeTitle ⟨area.x + 1, area.y, area.width - 2, 1⟩ title

/-! ### Reading -/

/-- The text of cells; the cells that a wide symbol covers are passed over. -/
def rowText : List Cell → Nat → String
  | [], _ => ""
  | cell :: rest, covered =>
    if covered = 0 then cell.symbol ++ rowText rest (cell.width - 1)
    else rowText rest (covered - 1)

/-- The rows as text, without trailing blanks. -/
def lines (grid : Grid) : List String :=
  grid.rows.toList.map fun row => Text.trimEnd (rowText row.toList 0)

/-- The columns of the highlighted cells of a row that begins at column `x`. -/
def highlightedColumns : List Cell → Nat → List Nat
  | [], _ => []
  | cell :: rest, x =>
    if cell.highlighted then x :: highlightedColumns rest (x + 1)
    else highlightedColumns rest (x + 1)

/-- The rows with highlighted cells: row, first and last such column. The cells that a wide symbol covers
are not highlighted, whatever stands on both sides of them. -/
def highlights (grid : Grid) : List (Nat × Nat × Nat) :=
  grid.rows.toList.zipIdx.filterMap fun (row, y) =>
    match highlightedColumns row.toList 0 with
    | [] => none
    | first :: rest => some (y, first, rest.getLastD first)

end Grid

end MindMap
