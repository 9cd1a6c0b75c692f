import MindMap.Proofs.Session.Announcements
import MindMap.Terminal.App

/-!
# Runs of the application

A run is a sequence of turns from an application that has just been opened on a file: a key event each,
and what becomes of a write that it calls for. Most keys continue the session by operations of its own,
none of which notes a save, and leave the file alone. The others save or quit: they are taken before the
input mode is looked at. So the session of every application reached is a reachable one, whichever writes
have failed.

What a key shows, and where it leaves the lines being typed, is not described here.
-/

namespace MindMap

namespace Turn

/-- A key is pressed, and nothing keeps the file from being written. -/
def press (key : Key) : Turn := { event := { key } }

/-- A key is pressed with Control held. -/
def pressControl (key : Key) : Turn := { event := { key, control := true } }

end Turn

namespace App

variable {app : App}

/-- A file that does not exist yet. -/
def newFile : DocumentFile := ⟨"plan.json", none⟩

/-! ### Keys that continue the session -/

/-- The session has been continued, without a save, and nothing has been done to the file. -/
structure Continues (before after : App) : Prop where
  session : ∃ operations, .markSaved ∉ operations ∧ after.session = before.session.run operations
  file : after.file = before.file
  quit : after.quit = before.quit

namespace Continues

/-- The session is as it was. -/
theorem still {after : App} (session : after.session = app.session) (file : after.file = app.file)
    (quit : after.quit = app.quit) : app.Continues after :=
  ⟨⟨[], List.not_mem_nil, session⟩, file, quit⟩

/-- One operation has been performed. -/
theorem perform {after : App} (operation : Operation) (noSave : operation ≠ .markSaved)
    (session : after.session = app.session.perform operation) (file : after.file = app.file)
    (quit : after.quit = app.quit) : app.Continues after := by
  refine ⟨⟨[operation], ?_, session⟩, file, quit⟩
  simpa using noSave.symm

end Continues

theorem showReply_eq (app : App) (line : String) (reply : Reply) :
    ∃ status output, app.showReply line reply = { app with status, output } := by
  unfold showReply
  split
  · split
    · exact ⟨_, _, rfl⟩
    · exact ⟨_, app.output, rfl⟩
  · exact ⟨_, app.output, rfl⟩
  · exact ⟨_, app.output, rfl⟩

theorem followSession_eq (app : App) :
    ∃ editLine inputMode, app.followSession = { app with editLine, inputMode } := by
  unfold followSession
  split
  · exact ⟨_, _, rfl⟩
  · exact ⟨app.editLine, app.inputMode, rfl⟩

section

variable [TextWidth]

/-- A line that is run says what it came to, and then keys may mean something else. -/
theorem runLine_eq (app : App) (line : String) :
    ∃ status output, app.runLine line = followSession
      { app with session := (app.registry.executeLine line app.session).2, status, output } := by
  obtain ⟨status, output, shown⟩ := showReply_eq
    { app with session := (app.registry.executeLine line app.session).2 } line
    (app.registry.executeLine line app.session).1
  exact ⟨status, output, congrArg followSession shown⟩

theorem continues_runLine (app : App) (line : String) : app.Continues (app.runLine line) := by
  obtain ⟨status, output, ran⟩ := app.runLine_eq line
  obtain ⟨editLine, inputMode, followed⟩ := followSession_eq
    { app with session := (app.registry.executeLine line app.session).2, status, output }
  rw [ran, followed]
  exact .perform (.executeLine app.registry line) nofun rfl rfl rfl

theorem continues_runKeys (app : App) (line : String) : app.Continues (app.runKeys line) := by
  obtain ⟨session, file, quit⟩ := continues_runLine { app with keys := app.keys.reset } line
  exact ⟨session, file, quit⟩

theorem continues_normalKey (app : App) (key : Key) : app.Continues (app.normalKey key) := by
  unfold normalKey
  split
  · exact continues_runKeys app "left"
  · exact continues_runKeys app "right"
  · exact continues_runKeys app "up"
  · exact continues_runKeys app "down"
  · exact continues_runKeys app "append"
  · exact .still rfl rfl rfl
  · next c =>
    dsimp only
    split
    · exact .still rfl rfl rfl
    · next line _ =>
      obtain ⟨session, file, quit⟩ := continues_runKeys { app with keys := (app.keys.push c).2 } line
      exact ⟨session, file, quit⟩
    · exact .still rfl rfl rfl
    · exact .still rfl rfl rfl
  · exact .still rfl rfl rfl

theorem continues_commandLineKey (app : App) (key : Key) :
    app.Continues (app.commandLineKey key) := by
  unfold commandLineKey
  split
  · exact .still rfl rfl rfl
  · dsimp only
    split
    · exact .still rfl rfl rfl
    · obtain ⟨session, file, quit⟩ :=
        continues_runLine { app with inputMode := .normal, commandLine := "" } app.commandLine
      exact ⟨session, file, quit⟩
  · split <;> exact .still rfl rfl rfl
  · split <;> exact .still rfl rfl rfl
  · exact .still rfl rfl rfl
  · exact .still rfl rfl rfl

end

theorem continues_finishEdit (app : App) : app.Continues app.finishEdit := by
  have performed : app.session.perform (.finishEdit (some app.editLine.text)) =
      (Session.finishEdit (some app.editLine.text)).after app.session := rfl
  unfold finishEdit
  dsimp only
  split
  · next run =>
    rw [HostM.after_of_ok run] at performed
    exact .perform (.finishEdit (some app.editLine.text)) nofun performed.symm rfl rfl
  · next run =>
    rw [HostM.after_of_error run] at performed
    exact .perform (.finishEdit (some app.editLine.text)) nofun performed.symm rfl rfl

theorem continues_insertKey [Segmentation] (app : App) (key : Key) : app.Continues (app.insertKey key) := by
  unfold insertKey
  split
  · exact continues_finishEdit app
  · exact continues_finishEdit app
  all_goals exact .still rfl rfl rfl

theorem continues_plainKey [TextWidth] [Segmentation] (app : App) (key : Key) :
    app.Continues (app.plainKey key) := by
  unfold plainKey
  split
  · exact continues_normalKey app key
  · exact continues_commandLineKey app key
  · exact continues_insertKey app key

/-! ### Opened files -/

/-- Only documents with distinct ids can be read. -/
theorem distinct_of_ofText [JsonLibrary] {text : String} {document : Forest}
    (read : Forest.ofText text = .ok document) : document.Distinct := by
  unfold Forest.ofText at read
  split at read
  · unfold Forest.ofJson at read
    split at read
    · cases read
    · split at read
      · next accepted =>
        cases read
        obtain ⟨distinct, rfl⟩ := Forest.checkDistinct_eq_ok_iff.mp accepted
        exact distinct
      · cases read
  · cases read

theorem distinct_sampleDocument : sampleDocument.Distinct := by
  unfold Forest.Distinct
  decide

/-- An application is opened on a document with distinct ids. -/
theorem exists_document_of_openFile [JsonLibrary] {file : DocumentFile}
    (opened : openFile file = .ok app) :
    ∃ document : Forest, document.Distinct ∧ app = start file document := by
  unfold openFile at opened
  split at opened
  · cases opened
    exact ⟨sampleDocument, distinct_sampleDocument, rfl⟩
  · next text _ =>
    cases read : Forest.ofText text with
    | error error => simp [read, Except.map] at opened
    | ok document =>
      obtain rfl : app = start file document := by simpa [read, Except.map, eq_comm] using opened
      exact ⟨document, distinct_of_ofText read, rfl⟩

/-- Selecting the first root is a motion of a session in which nothing is selected. -/
theorem reachable_session_start (file : DocumentFile) {document : Forest}
    (distinct : document.Distinct) : (start file document).session.Reachable := by
  have created : Session.create document = .ok (.ofForest document) :=
    Session.create_eq_ok_iff.mpr ⟨distinct, rfl⟩
  have moved := Session.run_navigateToDirection .down (.ofForest document)
  cases first : document.roots.head? with
  | none =>
    refine ⟨document, _, [], created, ?_⟩
    simp [start, first, Session.run, Session.setSelection, Session.ofForest]
  | some node =>
    refine ⟨document, _, [.call (.navigateToDirection .down)], created, ?_⟩
    have ending : (Session.ofForest document).document.endRoot? .down = some node := first
    rw [ending] at moved
    change (Session.navigateToDirection .down).silently.after (Session.ofForest document) = _
    rw [HostM.after_silently, HostM.after_of_ok moved]
    simp [start, first]

/-! ### All keys -/

/-- The key event answers the question about unsaved changes with no. -/
def Declines (app : App) (event : KeyEvent) : Prop :=
  app.confirmQuit = true ∧ (event.key = .char 'n' ∨ event.key = .char 'N')

instance (app : App) (event : KeyEvent) : Decidable (app.Declines event) :=
  inferInstanceAs (Decidable (_ ∧ _))

variable [JsonLibrary]

/-- What a turn can do to the session, the file and the wish to quit. -/
inductive Handles (app : App) (turn : Turn) (after : App) : Prop where
  | continues (written : app.written? turn = none) (continues : app.Continues after)
  | saves (written : app.written? turn = some app.session.document)
      (session : after.session = app.session.markSaved)
      (file : after.file =
        { app.file with contents := some app.session.document.prettyText })
  | quits (written : app.written? turn = none) (unmodified : app.session.modified = false)
      (session : after.session = app.session) (file : after.file = app.file)
  | declines (written : app.written? turn = none) (declines : app.Declines turn.event)
      (session : after.session = app.session) (file : after.file = app.file)

/-- A save writes the document and notes it, unless the file cannot be written. -/
theorem save_cases (app : App) (refusal : Option String) :
    (∃ reason, refusal = some reason ∧ app.save refusal = .error reason) ∨
    refusal = none ∧ ∃ saved, app.save refusal = .ok saved ∧
      saved.session = app.session.markSaved ∧
      saved.file = { app.file with contents := some app.session.document.prettyText } := by
  unfold save
  cases refusal with
  | some reason => exact .inl ⟨reason, rfl, rfl⟩
  | none => exact .inr ⟨rfl, _, rfl, rfl, rfl⟩

/-- At the question about unsaved changes, yes saves. -/
theorem handles_yes {turn : Turn} (pressed : turn.event.released = false)
    (asked : app.confirmQuit = true) (yes : turn.event.key = .char 'y' ∨ turn.event.key = .char 'Y') :
    app.Handles turn (match app.save turn.refusal with
      | .ok saved => { saved with quit := true }
      | .error reason => { app with status := "Save failed: " ++ reason, confirmQuit := false }) := by
  rcases app.save_cases turn.refusal with
    ⟨reason, refused, save⟩ | ⟨writable, saved, save, session, file⟩
  · rw [save]
    exact .continues (by simp [written?, refused]) (.still rfl rfl rfl)
  · rw [save]
    exact .saves (by simp [written?, pressed, writable, asked, yes]) session file

theorem handles_confirmKey {turn : Turn} (pressed : turn.event.released = false)
    (asked : app.confirmQuit = true) :
    app.Handles turn (app.confirmKey turn.refusal turn.event.key) := by
  unfold confirmKey
  split
  · next key => exact handles_yes pressed asked (.inl key)
  · next key => exact handles_yes pressed asked (.inr key)
  · next key => exact .declines (by simp [written?, asked, key]) ⟨asked, .inl key⟩ rfl rfl
  · next key => exact .declines (by simp [written?, asked, key]) ⟨asked, .inr key⟩ rfl rfl
  · next key => exact .continues (by simp [written?, asked, key]) (.still rfl rfl rfl)
  · next notLower notUpper _ _ _ =>
    have notYes : ¬(turn.event.key = .char 'y' ∨ turn.event.key = .char 'Y') :=
      fun yes => yes.elim notLower notUpper
    exact .continues (by simp [written?, asked, notYes]) (.still rfl rfl rfl)

theorem handles_saveKey {turn : Turn} (pressed : turn.event.released = false)
    (notAsked : app.confirmQuit = false) (control : turn.event.control = true)
    (key : turn.event.key = .char 's') : app.Handles turn (app.saveKey turn.refusal) := by
  unfold saveKey
  rcases app.save_cases turn.refusal with
    ⟨reason, refused, save⟩ | ⟨writable, saved, save, session, file⟩
  · rw [save]
    exact .continues (by simp [written?, refused]) (.still rfl rfl rfl)
  · rw [save]
    exact .saves (by simp [written?, pressed, writable, notAsked, control, key]) session file

theorem handles_quitKey {turn : Turn} (nothingWritten : app.written? turn = none) :
    app.Handles turn app.quitKey := by
  unfold quitKey
  split
  · exact .continues nothingWritten (.still rfl rfl rfl)
  · next unmodified =>
    exact .quits nothingWritten (eq_false_of_ne_true unmodified) rfl rfl

variable [TextWidth] [Segmentation]

theorem handles_pressKey {turn : Turn} (pressed : turn.event.released = false) :
    app.Handles turn (app.pressKey turn) := by
  let shown := { app with output := none }
  have handled : shown.Handles turn (app.pressKey turn) := by
    unfold pressKey
    dsimp only
    split
    · next asked => exact handles_confirmKey pressed asked
    · next notAsked =>
      have notAsked : shown.confirmQuit = false := eq_false_of_ne_true notAsked
      split
      · next control key => exact handles_saveKey pressed notAsked control key
      · next control key => exact handles_quitKey (by simp [written?, notAsked, key])
      · next notSave _ =>
        refine .continues ?_ (continues_plainKey shown turn.event.key)
        have notSaving : ¬(turn.event.control = true ∧ turn.event.key = .char 's') :=
          fun saving => notSave saving.1 saving.2
        simp [written?, notAsked, notSaving]
  -- What was shown until now is no part of the session, nor of the file.
  cases handled with
  | continues written continues =>
    exact .continues written ⟨continues.session, continues.file, continues.quit⟩
  | saves written session file => exact .saves written session file
  | quits written unmodified session file => exact .quits written unmodified session file
  | declines written declines session file => exact .declines written declines session file

theorem handles_handle (app : App) (turn : Turn) : app.Handles turn (app.handle turn) := by
  unfold handle
  split
  · next released => exact .continues (by simp [written?, released]) (.still rfl rfl rfl)
  · next pressed => exact handles_pressKey (eq_false_of_ne_true pressed)

/-! ### Runs -/

/-- The application after turns, one after another. -/
def run (app : App) (turns : List Turn) : App := turns.foldl handle app

@[simp] theorem run_nil (app : App) : app.run [] = app := rfl

@[simp] theorem run_cons (app : App) (turn : Turn) (rest : List Turn) :
    app.run (turn :: rest) = (app.handle turn).run rest := rfl

theorem run_concat (app : App) (turns : List Turn) (turn : Turn) :
    app.run (turns ++ [turn]) = (app.run turns).handle turn := by
  simp [run]

/-- Turns lead here from an application that was opened on a file. -/
def Reachable (app : App) : Prop :=
  ∃ file opened turns, openFile file = .ok opened ∧ opened.run turns = app

theorem Reachable.run (reachable : app.Reachable) (turns : List Turn) : (app.run turns).Reachable := by
  obtain ⟨file, opened, earlier, openedOk, rfl⟩ := reachable
  exact ⟨file, opened, earlier ++ turns, openedOk, List.foldl_append⟩

/-! ### The session of the application -/

/-- Whatever a turn does to the session is an operation of it. -/
theorem session_handle (app : App) (turn : Turn) :
    ∃ operations, (app.handle turn).session = app.session.run operations := by
  cases app.handles_handle turn with
  | continues _ continues =>
    obtain ⟨operations, _, session⟩ := continues.session
    exact ⟨operations, session⟩
  | saves _ session => exact ⟨[.markSaved], session⟩
  | quits _ _ session => exact ⟨[], session⟩
  | declines _ _ session => exact ⟨[], session⟩

theorem Reachable.session (reachable : app.Reachable) : app.session.Reachable := by
  obtain ⟨file, opened, turns, openedOk, rfl⟩ := reachable
  obtain ⟨document, distinct, rfl⟩ := exists_document_of_openFile openedOk
  induction turns using List.reverseRecOn with
  | nil => exact reachable_session_start file distinct
  | append_singleton before turn inductionHypothesis =>
    rw [run_concat]
    obtain ⟨operations, session⟩ := session_handle ((start file document).run before) turn
    rw [session]
    exact inductionHypothesis.run operations

end App

end MindMap
