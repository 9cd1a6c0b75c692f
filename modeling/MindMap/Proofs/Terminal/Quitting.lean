import MindMap.Json.Library
import MindMap.Proofs.Terminal.Runs
import MindMap.Text.Grapheme
import MindMap.Text.Width

/-!
# Quitting

An application that quits has its document in the file, unless it was told not to save: either a
save has just written it, or it has not changed since the last one. What is still being typed into a
node is no part of the document yet, and no part of this guarantee. Saving and quitting do not look
at the line being typed, so it is lost unless it says what the node says already; a run in which the
user loses it unasked is given below.

What was written last is followed beside the run, as a document. The file holds its text; what the
text reads back as is not a matter of this module.
-/

namespace MindMap

namespace App

variable {app : App} {written : Forest}

/-- The document with the line being typed as the text of its node. -/
def typedDocument (app : App) : Forest :=
  match app.inputMode, app.session.editing with
  | .insert, some edit =>
    (app.session.document.update? edit.id (.setText app.editLine.text)).getD app.session.document
  | _, _ => app.session.document

/-- The line being typed, if there is one, says what its node says already. -/
def NothingTyped (app : App) : Prop :=
  app.inputMode = .insert → ∀ edit, app.session.editing = some edit →
    (app.session.document.find? edit.id).map (·.text) = some app.editLine.text

/-- The line being typed makes no difference exactly if it says what its node says. -/
theorem typedDocument_eq_iff (editing : ∀ edit, app.session.editing = some edit →
    edit.id ∈ app.session.document.ids) :
    app.typedDocument = app.session.document ↔ app.NothingTyped := by
  unfold typedDocument
  split
  · next edit insert isOpen =>
    obtain ⟨node, found⟩ := Forest.exists_find?_of_mem_ids (editing edit isOpen)
    obtain ⟨updated, changed⟩ := Forest.exists_update?_of_mem_ids (editing edit isOpen)
      (.setText app.editLine.text)
    have sameText : app.NothingTyped ↔ node.text = app.editLine.text := by
      simp [NothingTyped, insert, isOpen, found]
    rw [sameText, changed, Option.getD_some]
    constructor
    · rintro rfl
      obtain ⟨children, foundAgain⟩ := Forest.find?_of_update? changed found
      rw [found] at foundAgain
      exact congrArg (·.text) (Option.some.inj foundAgain)
    · intro same
      have unchanged : (Update.setText app.editLine.text).apply node.toItem = node.toItem := by
        rw [← same]
        rfl
      rw [Forest.update?_eq_self found unchanged] at changed
      exact (Option.some.inj changed).symm
  · next notTyping =>
    refine iff_of_true rfl fun insert edit isOpen => ?_
    exact absurd isOpen (notTyping edit insert)

/-! ### The document and the file -/

section

variable [TextWidth] [Segmentation] [JsonLibrary]

/-- The document that was written last, when turns are taken in an application whose file has
`written`. -/
def lastWritten (app : App) (written : Forest) : List Turn → Forest
  | [] => written
  | turn :: rest => (app.handle turn).lastWritten ((app.written? turn).getD written) rest

theorem lastWritten_concat (app : App) (written : Forest) (turns : List Turn) (turn : Turn) :
    app.lastWritten written (turns ++ [turn]) =
      (((app.run turns).written? turn).getD (app.lastWritten written turns)) := by
  induction turns generalizing app written with
  | nil => rfl
  | cons first rest inductionHypothesis => exact inductionHypothesis (app.handle first) _

/-- A document that does not count as modified is the one written last. -/
structure UpToDate (app : App) (written : Forest) : Prop where
  consistent : app.session.Consistent
  saved : app.session.modified = false → app.session.document = written

namespace UpToDate

theorem handle (upToDate : app.UpToDate written) (turn : Turn) :
    (app.handle turn).UpToDate ((app.written? turn).getD written) := by
  obtain ⟨consistent, saved⟩ := upToDate
  cases app.handles_handle turn with
  | continues nothingWritten continues =>
    obtain ⟨operations, noSave, session⟩ := continues.session
    rw [nothingWritten]
    refine ⟨?_, ?_⟩
    · rw [session]
      exact (consistent.keeps_run operations).1
    · rw [session]
      intro unmodified
      obtain ⟨before, same⟩ := (consistent.reports_run noSave).unmodified unmodified
      exact same.trans (saved before)
  | saves documentWritten session =>
    rw [documentWritten]
    refine ⟨?_, fun _ => by rw [session]; rfl⟩
    rw [session]
    exact (consistent.keeps_perform .markSaved).1
  | quits nothingWritten _ session | declines nothingWritten _ session =>
    rw [nothingWritten]
    exact ⟨by rwa [session], by rwa [session]⟩

theorem run (upToDate : app.UpToDate written) (turns : List Turn) :
    (app.run turns).UpToDate (app.lastWritten written turns) := by
  induction turns generalizing app written with
  | nil => exact upToDate
  | cons turn rest inductionHypothesis => exact inductionHypothesis (upToDate.handle turn)

/-- A turn that quits leaves the document in the file, unless it declines to save. -/
theorem quits (upToDate : app.UpToDate written) {turn : Turn} (running : app.quit = false)
    (quits : (app.handle turn).quit = true) (saves : ¬app.Declines turn.event) :
    (app.written? turn).getD written = (app.handle turn).session.document := by
  cases app.handles_handle turn with
  | continues _ continues =>
    rw [continues.quit, running] at quits
    cases quits
  | saves documentWritten session _ =>
    rw [documentWritten, session]
    rfl
  | quits nothingWritten unmodified session _ =>
    rw [nothingWritten, session]
    exact (upToDate.saved unmodified).symm
  | declines _ declines => exact absurd declines saves

end UpToDate

/-- What the file holds is what it held, or the text of the document written last. -/
theorem contents_run (app : App) (written : Forest) (turns : List Turn) :
    (app.run turns).file.contents = app.file.contents ∧ app.lastWritten written turns = written ∨
      (app.run turns).file.contents = some (app.lastWritten written turns).prettyText := by
  induction turns using List.reverseRecOn with
  | nil => exact .inl ⟨rfl, rfl⟩
  | append_singleton before turn inductionHypothesis =>
    rw [run_concat, lastWritten_concat]
    cases (app.run before).handles_handle turn with
    | continues nothingWritten continues =>
      rw [nothingWritten, continues.file]
      exact inductionHypothesis
    | saves documentWritten _ file =>
      rw [documentWritten, file]
      exact .inr rfl
    | quits nothingWritten _ _ file | declines nothingWritten _ _ file =>
      rw [nothingWritten, file]
      exact inductionHypothesis

/-- A key that quits leaves the session's document in the file, unless it declines to save, and whether
or not the file could be written before. A line that is still being typed is in the file exactly if it has
not changed the text of its node. -/
theorem quit_leaves_document_in_file {file : DocumentFile} {turns : List Turn}
    {turn : Turn} (opened : openFile file = .ok app) (running : (app.run turns).quit = false)
    (quits : (app.run (turns ++ [turn])).quit = true)
    (saves : ¬(app.run turns).Declines turn.event) :
    let final := app.run (turns ++ [turn])
    let last := app.lastWritten app.session.document (turns ++ [turn])
    last = final.session.document ∧
      (last = final.typedDocument ↔ final.NothingTyped) ∧
      (final.file.contents = some last.prettyText ∨
        final.file.contents = file.contents ∧ last = app.session.document) := by
  obtain ⟨document, distinct, rfl⟩ := exists_document_of_openFile opened
  have started : (start file document).UpToDate (start file document).session.document :=
    ⟨(reachable_session_start file distinct).consistent, fun _ => rfl⟩
  have upToDate := started.run turns
  dsimp only
  rw [run_concat] at quits ⊢
  have inFile : (start file document).lastWritten (start file document).session.document
      (turns ++ [turn]) =
      (((start file document).run turns).handle turn).session.document := by
    rw [lastWritten_concat]
    exact upToDate.quits running quits saves
  refine ⟨inFile, ?_, ?_⟩
  · rw [inFile, eq_comm]
    exact typedDocument_eq_iff (upToDate.handle turn).consistent.editing
  · rw [← run_concat]
    rcases contents_run (start file document) (start file document).session.document
      (turns ++ [turn]) with ⟨sameContents, sameDocument⟩ | contents
    · exact .inr ⟨sameContents, sameDocument⟩
    · exact .inl contents

end

attribute [local instance] Text.terminalWidth Text.extendedClusters Json.library

/-- Control and q. -/
def quitTurn : Turn := .pressControl (.char 'q')

theorem quit_after_save_has_document_in_file :
    let turns : List Turn :=
      [.press (.char 'i'), .press (.char 'x'), .press .enter, quitTurn]
    let app := start newFile sampleDocument
    app.lastWritten app.session.document (turns ++ [.press (.char 'y')]) =
      (app.run (turns ++ [.press (.char 'y')])).session.document := by
  have opened : openFile newFile = .ok (start newFile sampleDocument) := rfl
  exact (quit_leaves_document_in_file opened (by decide) (by decide) (by decide)).1

/-- Quitting in the middle of an edit loses what has been typed, without a question. -/
theorem typed_text_lost_on_quit :
    let app := start newFile sampleDocument
    let turns : List Turn := [.press (.char 'i'), .press (.char 'x')]
    openFile newFile = .ok app ∧ (app.run turns).quit = false ∧
      (app.run (turns ++ [quitTurn])).quit = true ∧ ¬(app.run turns).Declines quitTurn.event ∧
      app.lastWritten app.session.document (turns ++ [quitTurn]) ≠
        (app.run (turns ++ [quitTurn])).typedDocument := by
  refine ⟨rfl, by decide, by decide, by decide, fun same => ?_⟩
  have texts := congrArg (fun document : Forest => (document.find? "root").map (·.text)) same
  revert texts
  decide

end App

end MindMap
