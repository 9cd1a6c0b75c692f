import MindMap.Proofs.Outline.Visibility
import MindMap.Proofs.Session.History
import MindMap.Proofs.Terminal.Offsets
import MindMap.Proofs.Terminal.Typing

/-!
# Editing the text of a node

While keys are text of a node, they change the line being edited and nothing else, until one of them ends
the edit. Then the text before the cursor and the text behind it become the text of the node, the rest of
the document stays as it was, and the history has one more document to go back to if the text is a new
one: `Reachable.edits_text`.

Asking to quit in the middle of an edit does not end it. The keys that follow answer the question, and
leave the line alone.
-/

namespace MindMap

/-! ### The end of an edit -/

namespace Forest

/-- Giving a node the text that it has changes nothing. -/
theorem Distinct.mapItems_setText {forest : Forest} (distinct : forest.Distinct) {id text : String}
    (same : (forest.find? id).map (·.text) = some text) :
    forest.mapItems (changeAt id (.setText text)) = forest := by
  refine mapItems_of_forall fun node inForest => ?_
  unfold changeAt
  split
  · next isNode =>
    rw [← isNode, distinct.find?_eq inForest] at same
    obtain rfl := Option.some.inj same
    rfl
  · rfl

end Forest

namespace Session

variable {session : Session}

/-- What the end of an edit makes of a session. -/
structure Written (before after : Session) (id text : String) : Prop where
  /-- The node has the text, and nothing else has changed. -/
  document : after.document = before.document.mapItems (Forest.changeAt id (.setText text))
  /-- Nothing is to be undone if nothing has changed. -/
  kept : (before.document.find? id).map (·.text) = some text → after.history = before.history
  recorded : (before.document.find? id).map (·.text) ≠ some text →
    after.past = (before.document :: before.past).take historyLimit ∧ after.future = []
  mode : after.mode = .normal
  editing : after.editing = none

theorem Reachable.written_of_finishEdit (reachable : session.Reachable) {edit : TextEdit}
    (isOpen : session.editing = some edit) (text : String) :
    ∃ after, (finishEdit (some text)).run session = .ok () after ∧
      session.Written after edit.id text := by
  have distinct := reachable.consistent.document_distinct
  have present := reachable.consistent.editing edit isOpen
  obtain ⟨node, found⟩ := Forest.exists_find?_of_mem_ids present
  rw [run_finishEdit, isOpen]
  dsimp only
  split
  · next same =>
    have same : (session.document.find? edit.id).map (·.text) = some text := by
      rw [found] at same ⊢
      simpa using same
    have still : (session.dropEdit.setMode .normal).history = session.history :=
      session.dropEdit.history_setMode .normal
    refine ⟨_, rfl, ?_, fun _ => still, fun differs => absurd same differs, by simp, ?_⟩
    · rw [distinct.mapItems_setText same]
      exact (documents_eq_of_history still).2
    · exact session.dropEdit.editing_setMode .normal
  · next differs =>
    have differs : (session.document.find? edit.id).map (·.text) ≠ some text := by
      intro same
      rw [found] at same differs
      simp_all
    have within : session.past.length ≤ historyLimit :=
      Nat.le_trans (Nat.le_add_right _ _) reachable.withinLimit
    rw [distinct.update?_eq _ present]
    dsimp only
    have recorded (document : Forest) :
        ((session.dropEdit.commit document).setMode .normal).history =
          (remember session.document session.past, document, []) := history_setMode _ .normal
    simp only [history, Prod.mk.injEq] at recorded
    refine ⟨_, rfl, (recorded _).2.1, fun same => absurd same differs, fun _ => ⟨?_, ?_⟩, by simp, ?_⟩
    · rw [(recorded _).1, remember_eq_take within]
    · exact (recorded _).2.2
    · exact (session.dropEdit.commit _).editing_setMode .normal

end Session

/-! ### Keys that edit -/

namespace KeyEvent

/-- The key is text of a node, or means nothing while keys are. -/
def Edits (event : KeyEvent) : Prop :=
  event.released = true ∨ event.key ≠ .enter ∧ event.key ≠ .escape ∧
    ¬(event.control = true ∧ (event.key = .char 's' ∨ event.key = .char 'q'))

instance (event : KeyEvent) : Decidable event.Edits := inferInstanceAs (Decidable (_ ∨ _))

/-- The key ends an edit. -/
def EndsEdit (event : KeyEvent) : Prop :=
  event.released = false ∧ (event.key = .enter ∨ event.key = .escape)

end KeyEvent

/-- What key events make of the line being edited, one after another. Keys that are released make nothing
of it. -/
inductive TakesAll [Segmentation] : EditLine → List KeyEvent → EditLine → Prop where
  | nil {line : EditLine} : TakesAll line [] line
  | released {line after : EditLine} {event : KeyEvent} {rest : List KeyEvent}
      (released : event.released = true) (later : TakesAll line rest after) :
      TakesAll line (event :: rest) after
  | pressed {line middle after : EditLine} {event : KeyEvent} {rest : List KeyEvent}
      (pressed : event.released = false) (takes : Takes line event.key middle)
      (later : TakesAll middle rest after) : TakesAll line (event :: rest) after

section

variable [Segmentation]

theorem TakesAll.append {line middle after : EditLine} {first second : List KeyEvent}
    (earlier : TakesAll line first middle) (later : TakesAll middle second after) :
    TakesAll line (first ++ second) after := by
  induction earlier with
  | nil => exact later
  | released released _ inductionHypothesis => exact .released released (inductionHypothesis later)
  | pressed pressed takes _ inductionHypothesis =>
    exact .pressed pressed takes (inductionHypothesis later)

theorem TakesAll.of_single {line after : EditLine} {event : KeyEvent}
    (takesAll : TakesAll line [event] after) :
    event.released = true ∧ after = line ∨ event.released = false ∧ Takes line event.key after := by
  cases takesAll with
  | released released later =>
    cases later
    exact .inl ⟨released, rfl⟩
  | pressed pressed takes later =>
    cases later
    exact .inr ⟨pressed, takes⟩

/-- The same with the cursor as an offset. -/
def ByteLine.takeAll? : ByteLine → List KeyEvent → Option ByteLine
  | line, [] => some line
  | line, event :: rest => do
    let taken ← if event.released then some line else line.take? event.key
    taken.takeAll? rest

theorem TakesAll.bytes {line after : EditLine} {events : List KeyEvent}
    (takesAll : TakesAll line events after) : line.bytes.takeAll? events = some after.bytes := by
  induction takesAll with
  | nil => rfl
  | released released _ inductionHypothesis =>
    rw [ByteLine.takeAll?, if_pos released]
    exact inductionHypothesis
  | pressed pressed takes _ inductionHypothesis =>
    rw [ByteLine.takeAll?, pressed, if_neg Bool.false_ne_true, takes.bytes]
    exact inductionHypothesis

end

namespace App

variable {app : App} {turn : Turn}

/-- Keys are text of a node, and no question is to be answered first. -/
structure Editing (app : App) : Prop where
  inputMode : app.inputMode = .insert
  unasked : app.confirmQuit = false

section

variable [TextWidth] [Segmentation] [JsonLibrary]

theorem Editing.pressKey_eq (editing : app.Editing)
    (plain : ¬(turn.event.control = true ∧
      (turn.event.key = .char 's' ∨ turn.event.key = .char 'q'))) :
    app.pressKey turn = { app with output := none }.insertKey turn.event.key := by
  unfold pressKey
  dsimp only
  rw [editing.unasked, if_neg Bool.false_ne_true]
  split
  · next control key => exact absurd ⟨control, .inl key⟩ plain
  · next control key => exact absurd ⟨control, .inr key⟩ plain
  · rw [plainKey, editing.inputMode]

/-- What keys that edit leave of the application: the line is another one. -/
structure Typed (before after : App) (events : List KeyEvent) : Prop where
  editing : after.Editing
  session : after.session = before.session
  line : TakesAll before.editLine events after.editLine

theorem Editing.handle (editing : app.Editing) (edits : turn.event.Edits) :
    app.Typed (app.handle turn) [turn.event] := by
  unfold App.handle
  split
  · next released => exact ⟨editing, rfl, .released released .nil⟩
  · next notReleased =>
    obtain ⟨notEnter, notEscape, plain⟩ := edits.resolve_left notReleased
    obtain ⟨line, taken, takes⟩ :=
      { app with output := none }.takes_insertKey notEnter notEscape
    rw [editing.pressKey_eq plain, taken]
    exact ⟨⟨editing.inputMode, editing.unasked⟩, rfl,
      .pressed (eq_false_of_ne_true notReleased) takes .nil⟩

theorem Editing.run (editing : app.Editing) {turns : List Turn}
    (edits : ∀ turn ∈ turns, turn.event.Edits) :
    app.Typed (app.run turns) (turns.map (·.event)) := by
  induction turns generalizing app with
  | nil => exact ⟨editing, rfl, .nil⟩
  | cons turn rest inductionHypothesis =>
    have first := editing.handle (edits turn List.mem_cons_self)
    have later := inductionHypothesis first.editing fun other member =>
      edits other (List.mem_cons_of_mem _ member)
    exact ⟨later.editing, later.session.trans first.session, first.line.append later.line⟩

/-- What a key that ends the edit of a node leaves behind. -/
structure Committed (before after : App) (id : String) : Prop where
  session : before.session.Written after.session id before.editLine.text
  inputMode : after.inputMode = .normal
  line : after.editLine = .empty

theorem Editing.handle_eq_finishEdit (editing : app.Editing) (ends : turn.event.EndsEdit) :
    app.handle turn = { app with output := none }.finishEdit := by
  obtain ⟨pressed, key⟩ := ends
  have plain : ¬(turn.event.control = true ∧
      (turn.event.key = .char 's' ∨ turn.event.key = .char 'q')) := by
    rcases key with key | key <;> simp [key]
  rw [App.handle, pressed, if_neg Bool.false_ne_true, editing.pressKey_eq plain]
  rcases key with key | key <;> rw [key] <;> rfl

theorem Reachable.committed (reachable : app.Reachable) (editing : app.Editing)
    (ends : turn.event.EndsEdit) {edit : TextEdit} (isOpen : app.session.editing = some edit) :
    app.Committed (app.handle turn) edit.id := by
  obtain ⟨after, run, written⟩ := reachable.session.written_of_finishEdit isOpen app.editLine.text
  rw [editing.handle_eq_finishEdit ends, finishEdit]
  dsimp only
  rw [run]
  exact ⟨written, rfl, rfl⟩

/-- The question about unsaved changes takes all keys, and none of them is text. -/
theorem handle_of_asked (asked : app.confirmQuit = true) (turn : Turn) :
    (app.handle turn).editLine = app.editLine ∧ (app.handle turn).inputMode = app.inputMode ∧
      ((app.handle turn).session = app.session ∨
        (app.handle turn).session = app.session.markSaved) := by
  unfold App.handle
  split
  · exact ⟨rfl, rfl, .inl rfl⟩
  · unfold pressKey
    dsimp only
    rw [asked, if_pos rfl]
    unfold confirmKey
    split
    case h_1 | h_2 =>
      split
      · next saved =>
        obtain ⟨file, rfl⟩ := eq_of_save saved
        exact ⟨rfl, rfl, .inr rfl⟩
      · exact ⟨rfl, rfl, .inl rfl⟩
    all_goals exact ⟨rfl, rfl, .inl rfl⟩

/-- How turns with key events that edit go on with the edit of a node. -/
structure Edited (before after : App) (turns : List Turn) (id : String) : Prop
    extends before.Typed after (turns.map (·.event)) where
  /-- With the cursor as an offset the same line results, and no cut is a wrong one. -/
  bytes : before.editLine.bytes.takeAll? (turns.map (·.event)) = some after.editLine.bytes
  cursor : String.Pos.Raw.IsValid after.editLine.text ⟨after.editLine.cursor⟩
  committed : ∀ turn : Turn, turn.event.EndsEdit → after.Committed (after.handle turn) id

/-- While the text of a node is edited, key events that edit change the line, each in its way, and nothing
else, until a key makes the line the text of the node. While the question about unsaved changes is open,
no key does either. -/
theorem Reachable.edits_text (reachable : app.Reachable) (insert : app.inputMode = .insert) :
    ∃ edit, app.session.editing = some edit ∧
      (app.confirmQuit = false → ∀ turns : List Turn, (∀ turn ∈ turns, turn.event.Edits) →
        app.Edited (app.run turns) turns edit.id) ∧
      (app.confirmQuit = true → ∀ turn : Turn,
        (app.handle turn).editLine = app.editLine ∧ (app.handle turn).inputMode = .insert ∧
          ((app.handle turn).session = app.session ∨
            (app.handle turn).session = app.session.markSaved)) := by
  obtain ⟨-, -, opened, -⟩ := reachable.input_follows_session
  obtain ⟨edit, isOpen, -⟩ := opened insert
  refine ⟨edit, isOpen, fun unasked turns edits => ?_, fun asked turn => ?_⟩
  · have typed := Editing.run ⟨insert, unasked⟩ edits
    have stillOpen : (app.run turns).session.editing = some edit := typed.session ▸ isOpen
    constructor
    case toTyped => exact typed
    case bytes => exact typed.line.bytes
    case cursor => exact String.Pos.Raw.isValid_rawEndPos.append_right _
    case committed =>
      exact fun turn ends => (reachable.run turns).committed typed.editing ends stillOpen
  · have answered := handle_of_asked asked turn
    rwa [insert] at answered

end

attribute [local instance] Text.terminalWidth Text.extendedClusters Json.library

theorem reachable_typing : typing.Reachable := ⟨newFile, _, _, rfl, rfl⟩

/-- A letter of two bytes is put before the one that was typed first. -/
theorem edited_text_of_new_node :
    let edited := typing.run [.press .left, .press (.char 'é')]
    edited.editLine = ⟨"é", "x"⟩ ∧ edited.editLine.cursor = 2 ∧
      edited.session = typing.session ∧
      edited.Committed (edited.handle (.press .enter)) "node-1" := by
  obtain ⟨edit, isOpen, edits, -⟩ := reachable_typing.edits_text (by decide)
  have edited := edits (by decide) [.press .left, .press (.char 'é')] (by decide)
  obtain rfl : ⟨"node-1", .atEnd⟩ = edit := by
    have opened : typing.session.editing = some ⟨"node-1", .atEnd⟩ := by decide
    exact Option.some.inj (opened.symm.trans isOpen)
  exact ⟨by decide, by decide, edited.session, edited.committed (.press .enter) ⟨rfl, .inl rfl⟩⟩

/-- A letter that is typed while the question is open is not put into the line. -/
theorem letter_lost_to_question :
    let asked := typing.handle (.pressControl (.char 'q'))
    asked.Reachable ∧ asked.inputMode = .insert ∧ (Turn.press (.char 'a')).event.Edits ∧
      asked.editLine = ⟨"x", ""⟩ ∧ (asked.handle (.press (.char 'a'))).editLine ≠ ⟨"xa", ""⟩ :=
  ⟨reachable_typing.run [.pressControl (.char 'q')], by decide, by decide, by decide,
    by decide⟩

end App

end MindMap
