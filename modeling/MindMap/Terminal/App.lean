import MindMap.Command.Execute
import MindMap.Command.Stock
import MindMap.Keys.Sequence
import MindMap.Outline.Stored
import MindMap.Session.Operations
import MindMap.Terminal.EditLine

/-!
# The terminal application

A session with a keyboard and a file. Keys are taken as key sequences, as text of a command line, or as
text of the node being edited, and two of them with Control save and quit at any time. Quitting with
unsaved changes asks first.

The file is a value that says what it holds. A key may call for the file to be written, and whether it can
be is known when the key is taken: a `Turn` is a key event with what becomes of such a write. Whoever runs
the application writes what `App.written?` says.
-/

namespace MindMap

/-- Where a document is kept. -/
structure DocumentFile where
  path : String
  /-- What the file holds; nothing if it does not exist. -/
  contents : Option String

/-- What typed keys mean. -/
inductive InputMode where
  /-- Keys are key sequences. -/
  | normal
  /-- Keys are text of a command line. -/
  | commandLine
  /-- Keys are text of a node. -/
  | insert
deriving DecidableEq, Repr, Inhabited

/-- The name of an input mode. -/
def InputMode.name : InputMode → String
  | .normal => "normal"
  | .commandLine => "command"
  | .insert => "insert"

/-- A key. -/
inductive Key where
  | char (c : Char)
  | escape
  | enter
  | tab
  | backspace
  | delete
  | left
  | right
  | up
  | down
  | home
  | toEnd
  /-- A key that means nothing here. -/
  | other
deriving DecidableEq, Repr, Inhabited

/-- A key that is pressed or released. -/
structure KeyEvent where
  key : Key
  /-- Whether Control is held, and no other modifier. -/
  control : Bool := false
  released : Bool := false
deriving DecidableEq, Repr

/-- A key event, and what becomes of the writing of the file if the event calls for it. -/
structure Turn where
  event : KeyEvent
  /-- Why the file cannot be written at this turn, if it cannot. -/
  refusal : Option String := none
deriving DecidableEq, Repr

/-- The application. -/
structure App where
  session : Session
  registry : Registry Action
  keys : KeySequence
  file : DocumentFile
  quit : Bool := false
  /-- Whether it has asked what to do about unsaved changes. -/
  confirmQuit : Bool := false
  status : String := ""
  /-- A message of several lines, shown until the next key. -/
  output : Option String := none
  inputMode : InputMode := .normal
  /-- The command line being typed. -/
  commandLine : String := ""
  /-- The text of the node being edited. -/
  editLine : EditLine := .empty
  /-- The first row of the outline that is shown. -/
  scrollTop : Nat := 0

namespace App

variable [TextWidth] [Segmentation] [JsonLibrary]

/-- The document of someone who has none yet. -/
def sampleDocument : Forest :=
  let place (item : Item) (x y : Float) : Item := { item with x, y }
  let leaf (id text : String) (x y : Float) : Node := (place (.plain id text) x y).leaf
  let keys : Node :=
    { toItem := place (.plain "keys" "Keys") 200 0
      children := .ofRoots
        [leaf "keys-move" "h j k l to move" 400 0, leaf "keys-edit" "i / A to edit" 400 60] }
  let commands : Node :=
    { toItem := place (.plain "cmds" "Commands") 200 180
      children := .ofRoots [leaf "cmds-help" ":help lists them" 400 180] }
  .ofRoots [{ toItem := .plain "root" "Mind map", children := .ofRoots [keys, commands] }]

/-- The application on a document, with the first root selected. -/
def start (file : DocumentFile) (document : Forest) : App :=
  let session := Session.ofForest document
  { session := session.setSelection (document.roots.head?.map (·.id))
    registry := .stock
    keys := .start .standard
    file }

/-- Open a file. -/
def openFile (file : DocumentFile) : Except DocumentError App :=
  match file.contents with
  | none => .ok (start file sampleDocument)
  | some text => (Forest.ofText text).map (start file)

/-- Save the document, or say why it cannot be saved. -/
def save (app : App) (refusal : Option String) : Except String App :=
  match refusal with
  | some reason => .error reason
  | none =>
    .ok { app with
      file := { app.file with contents := some app.session.document.prettyText }
      session := app.session.markSaved }

/-- Whether a text has several lines. -/
def hasLineBreak (text : String) : Bool := text.toList.contains '\n'

/-- Show what a command line came to. -/
def showReply (app : App) (line : String) : Reply → App
  | .done (some message) =>
    if hasLineBreak message then { app with status := "", output := some message }
    else { app with status := message }
  | .done none => { app with status := "" }
  | .refused error => { app with status := line ++ ": " ++ error }

/-- Go over to typing text if the session is editing a node. -/
def followSession (app : App) : App :=
  match app.session.mode, app.session.editing with
  | .insert, some edit =>
    let text := ((app.session.document.find? edit.id).map (·.text)).getD ""
    { app with
      editLine := match edit.cursor with
        | .atStart => .atStart text
        | .atEnd => .atEnd text
      inputMode := .insert }
  | _, _ => app

/-- Run a command line. -/
def runLine (app : App) (line : String) : App :=
  let (reply, session) := app.registry.executeLine line app.session
  ({ app with session }.showReply line reply).followSession

/-- Run a command line that keys stand for. -/
def runKeys (app : App) (line : String) : App :=
  { app with keys := app.keys.reset }.runLine line

/-- Take a key while keys are key sequences. -/
def normalKey (app : App) : Key → App
  | .left => app.runKeys "left"
  | .right => app.runKeys "right"
  | .up => app.runKeys "up"
  | .down => app.runKeys "down"
  | .enter => app.runKeys "append"
  | .escape => { app with keys := app.keys.reset, status := "" }
  | .char c =>
    let (outcome, keys) := app.keys.push c
    let pushed := { app with keys }
    match outcome with
    | .pending => pushed
    | .command line => pushed.runKeys line
    | .commandLine => { pushed with inputMode := .commandLine, commandLine := "" }
    | .unbound typed => { pushed with status := "Unbound keys: " ++ typed }
  | _ => app

/-- Take a key while keys are text of a command line. -/
def commandLineKey (app : App) : Key → App
  | .escape => { app with inputMode := .normal, commandLine := "" }
  | .enter =>
    let line := app.commandLine
    let left := { app with inputMode := .normal, commandLine := "" }
    if Text.allBlank line then left else left.runLine line
  | .tab =>
    match app.registry.complete? app.commandLine with
    | some completed => { app with commandLine := completed }
    | none => app
  | .backspace =>
    if app.commandLine.isEmpty then { app with inputMode := .normal }
    else { app with commandLine := .ofList app.commandLine.toList.dropLast }
  | .char c => { app with commandLine := app.commandLine.push c }
  | _ => app

/-- End the editing of a node and give it the text. -/
def finishEdit (app : App) : App :=
  let left := { app with editLine := .empty, inputMode := .normal }
  match (Session.finishEdit (some app.editLine.text)).run app.session with
  | .ok _ session => { left with session }
  | .error failure session => { left with session, status := failure.message }

/-- Take a key while keys are text of a node. -/
def insertKey (app : App) : Key → App
  | .escape | .enter => app.finishEdit
  | .backspace => { app with editLine := app.editLine.deleteBefore }
  | .delete => { app with editLine := app.editLine.deleteAfter }
  | .left => { app with editLine := app.editLine.left }
  | .right => { app with editLine := app.editLine.right }
  | .home => { app with editLine := app.editLine.home }
  | .toEnd => { app with editLine := app.editLine.toEnd }
  | .char c => { app with editLine := app.editLine.type c }
  | _ => app

/-- Take the answer to the question about unsaved changes. -/
def confirmKey (app : App) (refusal : Option String) : Key → App
  | .char 'y' | .char 'Y' =>
    match app.save refusal with
    | .ok saved => { saved with quit := true }
    | .error reason => { app with status := "Save failed: " ++ reason, confirmQuit := false }
  | .char 'n' | .char 'N' => { app with quit := true }
  | .escape => { app with confirmQuit := false, status := "" }
  | _ => app

/-- Save because the user asked for it. -/
def saveKey (app : App) (refusal : Option String) : App :=
  match app.save refusal with
  | .ok saved => { saved with status := "Saved " ++ app.file.path }
  | .error reason => { app with status := "Save failed: " ++ reason }

/-- Quit, or ask about unsaved changes first. -/
def quitKey (app : App) : App :=
  if app.session.modified then
    { app with
      confirmQuit := true
      status := "Unsaved changes. Save before quitting? (y/n/Esc)" }
  else { app with quit := true }

/-- Take a key as the input mode says. -/
def plainKey (app : App) (key : Key) : App :=
  match app.inputMode with
  | .normal => app.normalKey key
  | .commandLine => app.commandLineKey key
  | .insert => app.insertKey key

/-- Take a key that is pressed. -/
def pressKey (app : App) (turn : Turn) : App :=
  let shown := { app with output := none }
  if shown.confirmQuit then shown.confirmKey turn.refusal turn.event.key
  else match turn.event.control, turn.event.key with
    | true, .char 's' => shown.saveKey turn.refusal
    | true, .char 'q' => shown.quitKey
    | _, key => shown.plainKey key

/-- Take a turn. Keys that are released do nothing. -/
def handle (app : App) (turn : Turn) : App :=
  if turn.event.released then app else app.pressKey turn

/-- The document that is written to the file at a turn, if one is. -/
def written? (app : App) (turn : Turn) : Option Forest :=
  if turn.event.released = true ∨ turn.refusal.isSome = true then none
  else if app.confirmQuit = true then
    if turn.event.key = .char 'y' ∨ turn.event.key = .char 'Y' then some app.session.document
    else none
  else if turn.event.control = true ∧ turn.event.key = .char 's' then some app.session.document
  else none

end App

end MindMap
