import MindMap.Json.Library
import MindMap.Terminal.KeyNotation
import MindMap.Terminal.Screen
import MindMap.Text.Grapheme
import MindMap.Text.Width

/-!
# The program

Opens a document, draws it, and takes keys from standard input, one name or one text a line, until it is
told to quit or the input ends. The screen is drawn anew after every line.

What the application takes as given is settled here: terminals show texts in their Unicode widths, the text
cursor moves over extended grapheme clusters, and documents are stored by `Json.library`.
-/

namespace MindMap

attribute [local instance] Text.terminalWidth Text.extendedClusters Json.library

/-- How the program is called. -/
def usage (program : String) : String :=
  "Usage: " ++ program ++ " <map.json>\n\nExample:\n  " ++ program ++ " plan.json"

/-- The size of the screen that is drawn, in columns and rows. -/
def screenSize : Nat × Nat := (100, 30)

/-- What a file holds; nothing if it does not exist. -/
def readContents (path : String) : IO (Option String) := do
  try
    return some (← IO.FS.readFile path)
  catch
    | .noFileOrDirectory .. => return none
    | error => throw error

/-- Take a key event. If it calls for a document to be written, the file is; if it cannot be, the event is
taken as one at whose turn the file cannot be written. -/
def takeEvent (app : App) (event : KeyEvent) : IO App := do
  match app.written? { event } with
  | none => return app.handle { event }
  | some document =>
    try
      IO.FS.writeFile app.file.path document.prettyText
      return app.handle { event }
    catch error => return app.handle { event, refusal := some (toString error) }

/-- Draw the application, and go on with the next line of keys. -/
partial def interact (app : App) (input : IO.FS.Stream) : IO Unit := do
  let (drawn, screen) := app.draw screenSize.1 screenSize.2
  IO.println ("\n".intercalate screen.grid.lines)
  unless drawn.quit do
    let line ← input.getLine
    unless line.isEmpty do
      let keys := (Text.lines line).headD ""
      interact (← (KeyEvent.ofText keys).foldlM takeEvent drawn) input

/-- Open the document that the first argument names. -/
def run (args : List String) : IO UInt32 := do
  match args with
  | [] =>
    IO.eprintln (usage (← IO.appPath).toString)
    return 1
  | path :: _ =>
    let file : DocumentFile := { path, contents := ← readContents path }
    match App.openFile file with
    | .error error =>
      IO.eprintln ("Error: " ++ error.message)
      return 1
    | .ok app =>
      interact app (← IO.getStdin)
      return 0

end MindMap

/-- The program. -/
def main (args : List String) : IO UInt32 := MindMap.run args
