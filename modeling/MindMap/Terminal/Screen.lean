import MindMap.Terminal.App
import MindMap.Terminal.Grid
import MindMap.Text.Lines

/-!
# The screen of the application

The outline in a box, a status line, and a last line for the command line or for hints. A message of
several lines is shown in a box over the lower part of the outline. Drawing scrolls the outline so that
the selected row is shown.
-/

namespace MindMap

/-- What the terminal shows. -/
structure Screen where
  grid : Grid
  /-- The column and row of the text cursor, if it is shown. -/
  cursor : Option (Nat × Nat)

namespace App

variable [TextWidth] [Segmentation]

/-- The rows of the outline. -/
def rows (app : App) : List (Nat × Node) := app.session.document.rows

/-- The row of the selected node, if it is visible. -/
def selectedRow? (app : App) : Option Nat :=
  app.rows.findIdx? fun row => some row.2.id = app.session.selection

/-- The first row shown when `height` rows fit and the selected one is to be shown. -/
def scrolledTop (app : App) (height : Nat) : Nat :=
  match app.selectedRow? with
  | none => app.scrollTop
  | some row =>
    if row < app.scrollTop then row
    else if 0 < height && app.scrollTop + height ≤ row then row + 1 - height
    else app.scrollTop

/-- Scroll so that the selected row is among the `height` rows shown. -/
def scroll (app : App) (height : Nat) : App := { app with scrollTop := app.scrolledTop height }

/-- The rows shown when `height` rows fit, with their indices. -/
def shownRows (app : App) (height : Nat) : List ((Nat × Node) × Nat) :=
  (app.rows.zipIdx.drop app.scrollTop).take height

/-- What stands before the text of a row: its indentation and whether it can be folded. -/
def rowMargin (depth : Nat) (node : Node) : String :=
  let marker :=
    if !node.hasChildren then "  " else if node.collapsed then "▸ " else "▾ "
  Text.spaces (2 * depth) ++ marker

/-- Whether the text of a row is being edited. -/
def isEdited (app : App) (index : Nat) : Bool :=
  app.inputMode = .insert && app.selectedRow? = some index

/-- A row of the outline. -/
def rowSpans (app : App) (row : (Nat × Node) × Nat) : List Span :=
  let ((depth, node), index) := row
  let text := if app.isEdited index then app.editLine.text else node.text
  [⟨rowMargin depth node, false⟩, ⟨text, app.selectedRow? = some index⟩]
    ++ (if node.note.isSome then [⟨" ✎", false⟩] else [])

/-- Where the cursor stands in the outline when `height` rows are shown, if a row shown is edited. -/
def outlineCursor? (app : App) (area : Area) : Option (Nat × Nat) :=
  (app.shownRows area.inner.height).findSome? fun ((depth, node), index) =>
    if app.isEdited index then
      some
        (area.x + 1 + TextWidth.width (rowMargin depth node) + TextWidth.width app.editLine.before,
         area.y + 1 + (index - app.scrollTop))
    else none

/-- Draw the outline. -/
def drawOutline (app : App) (area : Area) (grid : Grid) : Grid :=
  (grid.box area (" " ++ app.file.path ++ " ")).writeLines area.inner
    ((app.shownRows area.inner.height).map app.rowSpans)

/-- The status line. -/
def statusLine (app : App) : String :=
  let mode := match app.inputMode with
    | .commandLine => "COMMAND"
    | .insert => "INSERT"
    | .normal => "NORMAL"
  if app.status.isEmpty then
    " " ++ mode ++ (if app.session.modified then " [+]" else "")
      ++ " | nodes:" ++ toString app.session.document.size
      ++ " | version:" ++ toString app.session.version ++ " " ++ app.keys.typed
  else " " ++ mode ++ " | " ++ app.status

/-- What the last line shows. -/
def bottomLine (app : App) : String :=
  if app.inputMode = .commandLine then ":" ++ app.commandLine
  else if app.confirmQuit then "Y:save and quit  N:quit without saving  Esc:cancel"
  else
    "hjkl:move  dd:delete  o/a:add  i/A:edit  za:fold  u/U:undo/redo  "
      ++ "::command  ?:help  Ctrl-S:save  Ctrl-Q:quit"

/-- Draw a line of text in the first row of a rectangle. -/
def drawText (area : Area) (text : String) (grid : Grid) : Grid :=
  grid.writeLines area ((Text.lines text).map fun line => [⟨line, false⟩])

/-- Draw a message of several lines over the lower part of a rectangle. -/
def drawOutput (area : Area) (output : String) (grid : Grid) : Grid :=
  let lines := Text.lines output
  let height := min (lines.length + 2) area.height
  let popup : Area := ⟨area.x + 2, area.y + (area.height - height), area.width - 4, height⟩
  ((grid.fill popup " ").box popup " output ").writeWrapped popup.inner
    (lines.map fun line => [⟨line, false⟩])

/-- The rectangles of the outline, the status line and the last line. -/
def areas (width height : Nat) : Area × Area × Area :=
  let outline := min height (max 1 (height - 2))
  let status := min 1 (height - outline)
  let bottom := min 1 (height - outline - status)
  (⟨0, 0, width, outline⟩, ⟨0, outline, width, status⟩, ⟨0, outline + status, width, bottom⟩)

/-- Draw the application on a screen of the given size. Drawing scrolls. -/
def draw (app : App) (width height : Nat) : App × Screen :=
  let (outline, status, bottom) := areas width height
  let scrolled := app.scroll outline.inner.height
  let grid := Grid.ofSize width height
    |> scrolled.drawOutline outline
    |> drawText status scrolled.statusLine
    |> drawText bottom scrolled.bottomLine
  let covered := match scrolled.output with
    | some output => drawOutput outline output grid
    | none => grid
  let cursor :=
    if scrolled.inputMode = .commandLine then some (TextWidth.width scrolled.bottomLine, bottom.y)
    else scrolled.outlineCursor? outline
  (scrolled, ⟨covered, cursor⟩)

end App

end MindMap
