import MindMap.Json.Library
import MindMap.Proofs.Command.Edits
import MindMap.Proofs.Terminal.Responses
import MindMap.Text.Grapheme
import MindMap.Text.Width

/-!
# Typing the text of a node

What typed keys mean and whether the session edits a node never disagree: keys are text of a node
exactly while the session is in insert mode, and exactly while it has an open edit. That edit is of the
selected node, and the line being edited is empty outside of it.

Only a line that is run can begin an edit, and lines are run only outside of one; only the keys that end
it end an edit. What has been typed into the line in between is not described here.
-/

namespace MindMap

namespace App

variable {app : App}

/-- What typed keys mean agrees with what the session is doing. -/
inductive InStep (app : App) : Prop
  | rests (atRest : app.session.AtRest) (mode : app.inputMode ≠ .insert)
      (line : app.editLine = .empty) : InStep app
  | types (edits : app.session.Edits) (mode : app.inputMode = .insert) : InStep app

theorem inStep_start (file : DocumentFile) (document : Forest) : (start file document).InStep := by
  have created : (Session.ofForest document).AtRest := ⟨rfl, nofun⟩
  exact .rests (created.setSelection _) nofun rfl

/-- Nothing else of an application matters. -/
theorem InStep.congr {after : App} (inStep : app.InStep) (mode : after.session.mode = app.session.mode)
    (editing : after.session.editing = app.session.editing)
    (selection : after.session.selection = app.session.selection)
    (inputMode : after.inputMode = app.inputMode) (editLine : after.editLine = app.editLine) :
    after.InStep := by
  cases inStep with
  | rests atRest isMode line =>
    exact .rests (atRest.congr mode editing) (inputMode ▸ isMode) (editLine.trans line)
  | types edits isMode =>
    refine .types ⟨mode.trans edits.mode, ?_⟩ (inputMode.trans isMode)
    rw [editing, selection]
    exact edits.editing

/-! ### Lines -/

/-- Behind a line, the application goes over to typing exactly if the session edits a node. -/
theorem inStep_followSession (session : app.session.AtRest ∨ app.session.Edits)
    (mode : app.inputMode ≠ .insert) (line : app.editLine = .empty) : app.followSession.InStep := by
  unfold followSession
  rcases session with atRest | edits
  · rw [atRest.editing]
    split
    · next edit _ isOpen => cases isOpen
    · exact .rests atRest mode line
  · obtain ⟨edit, isOpen, -⟩ := edits.editing
    rw [edits.mode, isOpen]
    exact .types edits rfl

theorem inStep_runLine [TextWidth] (consistent : app.session.Consistent) (atRest : app.session.AtRest)
    (mode : app.inputMode ≠ .insert) (empty : app.editLine = .empty) (line : String) :
    (app.runLine line).InStep := by
  obtain ⟨status, output, ran⟩ := app.runLine_eq line
  rw [ran]
  exact inStep_followSession (consistent.atRest_or_edits_of_executeLine atRest app.registry line)
    mode empty

/-! ### Responses -/

theorem InStep.respond [TextWidth] {after : App} (inStep : app.InStep) (consistent : app.session.Consistent)
    (response : app.Response after) : after.InStep := by
  cases response with
  | holds session inputMode editLine =>
    rcases session with same | saved
    · exact inStep.congr (same ▸ rfl) (same ▸ rfl) (same ▸ rfl) inputMode editLine
    · exact inStep.congr (saved ▸ rfl) (saved ▸ rfl) (saved ▸ rfl) inputMode editLine
  | switches outside stays session editLine =>
    cases inStep with
    | rests atRest _ line => exact .rests (session ▸ atRest) stays (editLine.trans line)
    | types _ inside => exact absurd inside outside
  | runs outside line stays session editLine runs =>
    cases inStep with
    | rests atRest _ empty =>
      rw [runs]
      exact inStep_runLine (session ▸ consistent) (session ▸ atRest) stays (editLine.trans empty) line
    | types _ inside => exact absurd inside outside
  | types inside stays session =>
    cases inStep with
    | rests _ outside => exact absurd inside outside
    | types edits _ => exact .types (session ▸ edits) stays
  | finishes inside left session editLine =>
    cases inStep with
    | rests _ outside => exact absurd inside outside
    | types edits _ =>
      -- The end of an edit cannot fail, so it leaves insert mode too.
      obtain ⟨ended, run, atRest⟩ := consistent.atRest_of_finishEdit edits app.editLine.text
      rw [HostM.after_of_ok run] at session
      exact .rests (session ▸ atRest) (by simp [left]) editLine

/-! ### Runs -/

section

variable [TextWidth] [Segmentation] [JsonLibrary]

theorem Reachable.inStep (reachable : app.Reachable) : app.InStep := by
  obtain ⟨file, opened, turns, openedOk, rfl⟩ := reachable
  induction turns using List.reverseRecOn with
  | nil =>
    obtain ⟨document, -, rfl⟩ := exists_document_of_openFile openedOk
    exact inStep_start file document
  | append_singleton before turn inductionHypothesis =>
    have reached : (opened.run before).Reachable := ⟨file, opened, before, openedOk, rfl⟩
    rw [run_concat]
    exact inductionHypothesis.respond reached.session.consistent (responds_handle _ turn).response

/-- In every application that keys lead to, keys are text of a node exactly while the session is in
insert mode, and exactly while it has an open edit, which is of the selected node. Otherwise nothing is
left in the line being edited. -/
theorem Reachable.input_follows_session (reachable : app.Reachable) :
    (app.inputMode = .insert ↔ app.session.mode = .insert) ∧
    (app.session.mode = .insert ↔ app.session.editing.isSome = true) ∧
    (app.inputMode = .insert →
      ∃ edit, app.session.editing = some edit ∧ app.session.selection = some edit.id) ∧
    (app.inputMode ≠ .insert → app.editLine.text = "" ∧ app.editLine.cursor = 0) := by
  cases reachable.inStep with
  | rests atRest mode line =>
    refine ⟨iff_of_false mode atRest.mode, iff_of_false atRest.mode ?_, fun insert => absurd insert mode,
      fun _ => ?_⟩
    · simp [atRest.editing]
    · rw [line]
      exact ⟨rfl, rfl⟩
  | types edits mode =>
    obtain ⟨edit, isOpen, selected⟩ := edits.editing
    exact ⟨iff_of_true mode edits.mode, iff_of_true edits.mode (isOpen ▸ rfl),
      fun _ => ⟨edit, isOpen, selected⟩, fun notInsert => absurd mode notInsert⟩

end

attribute [local instance] Text.terminalWidth Text.extendedClusters Json.library

/-- A new document to which a node has been added, with one letter of its text typed. -/
def typing : App :=
  (start newFile sampleDocument).run [.press (.char 'o'), .press (.char 'x')]

theorem input_follows_session_typing :
    typing.editLine.text = "x" ∧ typing.session.mode = .insert ∧
      ∃ edit, typing.session.editing = some edit ∧ typing.session.selection = some edit.id := by
  have opened : openFile newFile = .ok (start newFile sampleDocument) := rfl
  have reachable : typing.Reachable := ⟨newFile, _, _, opened, rfl⟩
  have types : typing.inputMode = .insert := by decide
  obtain ⟨insert, -, ofSelected, -⟩ := reachable.input_follows_session
  exact ⟨by decide, insert.mp types, ofSelected types⟩

end App

end MindMap
