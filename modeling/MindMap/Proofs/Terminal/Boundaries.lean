import MindMap.Proofs.Terminal.LineEditing
import MindMap.Proofs.Text.Clusters

/-!
# The cursor and the clusters of the line

The cursor of the line being edited moves over whole clusters, of the text before it and of the text
behind it. It is meant to stand between two clusters of the whole line. Moving it keeps it there, but
typing and deleting put texts beside each other that may run together into one cluster, and then the
cursor stands inside of it: a mark behind the cursor goes on with a letter typed before it. All this is about
the clusters of Unicode; of other pieces a text may fall into, nothing is said.

That is the only way: `cursor_strays_where_texts_merge`. From there a move to the left, to the start or
to the end leads back, and so does the end of the edit.
-/

namespace MindMap

open Text (graphemes joined)
open Segmentation (texts)

attribute [local instance] Text.extendedClusters

namespace Text

theorem texts_eq (text : String) : texts text = (graphemes text.toList).map String.ofList := rfl

/-- A number of bytes after which a cluster of the text begins, or the text ends. -/
def IsBoundary (text : String) (offset : Nat) : Prop :=
  ∃ pieces rest, texts text = pieces ++ rest ∧ (String.join pieces).utf8ByteSize = offset

theorem eq_of_append_eq {before after before' after' : String}
    (same : before ++ after = before' ++ after') (size : before.utf8ByteSize = before'.utf8ByteSize) :
    before = before' ∧ after = after' := by
  have bytes := congrArg String.toByteArray same
  rw [String.toByteArray_append, String.toByteArray_append] at bytes
  obtain rfl := String.toByteArray_inj.mp (ByteArray.append_inj_left bytes size)
  exact ⟨rfl, (String.append_right_inj before).mp same⟩

/-- A place in a text is a boundary if what comes before it and what comes behind it are not joined. -/
theorem isBoundary_iff {before after : String} :
    IsBoundary (before ++ after) before.utf8ByteSize ↔
      joined before.toList after.toList = false := by
  rw [← exists_pieces_iff, ← String.toList_append]
  constructor
  · rintro ⟨pieces, rest, cut, size⟩
    have whole : before ++ after = String.join pieces ++ String.join rest := by
      rw [← String.join_append, ← cut, Segmentation.join_texts]
    obtain ⟨rfl, rfl⟩ := eq_of_append_eq whole size.symm
    obtain ⟨first, second, split, rfl, rfl⟩ := List.map_eq_append_iff.mp cut
    exact ⟨first, second, split, by simp [← ofList_flatten], by simp [← ofList_flatten]⟩
  · rintro ⟨pieces, rest, cut, flatten, -⟩
    refine ⟨pieces.map .ofList, rest.map .ofList, ?_, ?_⟩
    · rw [texts_eq, cut, List.map_append]
    · rw [← ofList_flatten, flatten, String.ofList_toList]

/-- Where two texts are not joined, their clusters stay as they are. -/
theorem texts_append {before after : String}
    (apart : joined before.toList after.toList = false) :
    texts (before ++ after) = texts before ++ texts after := by
  rw [texts_eq, String.toList_append, graphemes_append apart, List.map_append]
  rfl

theorem ne_empty_of_mem_texts {text cluster : String} (mem : cluster ∈ texts text) :
    cluster ≠ "" := by
  obtain ⟨piece, inText, rfl⟩ := List.mem_map.mp mem
  simpa using ne_nil_of_mem_graphemes inText

end Text

namespace EditLine

variable {line after : EditLine} {key : Key}

/-- The cursor stands between two clusters of the text, or at either end of it. -/
def OnBoundary (line : EditLine) : Prop := Text.IsBoundary line.text line.cursor

theorem onBoundary_iff : line.OnBoundary ↔ joined line.before.toList line.after.toList = false :=
  Text.isBoundary_iff

instance (line : EditLine) : Decidable line.OnBoundary := decidable_of_iff' _ onBoundary_iff

theorem onBoundary_atStart (text : String) : (atStart text).OnBoundary :=
  onBoundary_iff.mpr (Text.joined_nil_left _)

theorem onBoundary_atEnd (text : String) : (atEnd text).OnBoundary :=
  onBoundary_iff.mpr (Text.joined_nil_right _)

/-- The cursor stands at either end of the text. -/
def Placed (line : EditLine) : Prop := ∃ text, line = atStart text ∨ line = atEnd text

theorem Placed.onBoundary (placed : line.Placed) : line.OnBoundary := by
  obtain ⟨text, rfl | rfl⟩ := placed
  · exact onBoundary_atStart text
  · exact onBoundary_atEnd text

/-- What a key that types or deletes makes of the line. -/
def changed? (line : EditLine) : Key → Option EditLine
  | .char c => some (line.type c)
  | .backspace => some line.deleteBefore
  | .delete => some line.deleteAfter
  | _ => none

/-- The key types or deletes so that one cluster reaches over the cursor. -/
def Merges (line : EditLine) (key : Key) : Prop :=
  ∃ changed, line.changed? key = some changed ∧
    joined changed.before.toList changed.after.toList = true

end EditLine

/-! ### Keys -/

/-- A key that leads to a boundary from everywhere. -/
def Key.Returns (key : Key) : Prop := key = .left ∨ key = .home ∨ key = .toEnd

namespace Takes

variable {line after : EditLine} {key : Key}

/-- Typing and deleting leave no choice. -/
theorem eq_of_changed {changed : EditLine} (takes : Takes line key after)
    (isChange : line.changed? key = some changed) : after = changed := by
  cases takes with
  | char c => exact Option.some.inj isChange
  | backspace clusters =>
    rw [← Option.some.inj isChange, EditLine.deleteBefore, EditLine.splitLast_eq clusters]
  | delete clusters =>
    rw [← Option.some.inj isChange, EditLine.deleteAfter, EditLine.splitFirst_eq clusters]
  | left | right | home | toEnd => cases isChange
  | atStart backward =>
    rcases backward with rfl | rfl
    · rw [← Option.some.inj isChange]
      rfl
    · cases isChange
  | atEnd forward =>
    rcases forward with rfl | rfl
    · rw [← Option.some.inj isChange]
      rfl
    · cases isChange
  | ignored ignored => rcases ignored with rfl | rfl | rfl | rfl <;> cases isChange

theorem onBoundary_of_returns (takes : Takes line key after) (returns : key.Returns) :
    after.OnBoundary := by
  cases takes with
  | @left before after cluster pieces clusters =>
    -- Whether a cluster ends before the one that is moved over is not up to the text behind that one.
    have notEmpty : cluster.toList ≠ [] := by
      have inText : cluster ∈ texts before := by simp [clusters]
      simpa using Text.ne_empty_of_mem_texts inText
    have between : Text.IsBoundary (String.join pieces ++ cluster) (String.join pieces).utf8ByteSize :=
      ⟨pieces, [cluster], by rw [← Segmentation.eq_join_append clusters, clusters], rfl⟩
    rw [EditLine.onBoundary_iff, String.toList_append, Text.joined_append_right notEmpty]
    exact Text.isBoundary_iff.mp between
  | home => exact EditLine.onBoundary_atStart _
  | toEnd => exact EditLine.onBoundary_atEnd _
  | atStart => exact EditLine.onBoundary_atStart _
  | atEnd => exact EditLine.onBoundary_atEnd _
  | char | backspace | delete | right => simp [Key.Returns] at returns
  | ignored ignored => rcases ignored with rfl | rfl | rfl | rfl <;> simp [Key.Returns] at returns

/-- A key that neither types nor deletes keeps to boundaries. -/
theorem onBoundary_of_moves (takes : Takes line key after) (moves : line.changed? key = none)
    (onBoundary : line.OnBoundary) : after.OnBoundary := by
  cases takes with
  | left clusters => exact (Takes.left clusters).onBoundary_of_returns (.inl rfl)
  | @right before after cluster pieces clusters =>
    -- From a boundary the first cluster behind the cursor is one of the whole text.
    have apart := EditLine.onBoundary_iff.mp onBoundary
    refine ⟨texts before ++ [cluster], pieces, ?_, ?_⟩
    · have whole : EditLine.text ⟨before ++ cluster, String.join pieces⟩ = before ++ after := by
        rw [Segmentation.eq_append_join clusters, EditLine.text, String.append_assoc]
      rw [whole, Text.texts_append apart, clusters, List.append_assoc]
      rfl
    · rw [String.join_append, Segmentation.join_texts]
      simp [EditLine.cursor]
  | home => exact EditLine.onBoundary_atStart _
  | toEnd => exact EditLine.onBoundary_atEnd _
  | atStart => exact EditLine.onBoundary_atStart _
  | atEnd => exact EditLine.onBoundary_atEnd _
  | ignored => exact onBoundary
  | char | backspace | delete => cases moves

/-- From a boundary the cursor only gets away where two texts run together. -/
theorem onBoundary_iff (takes : Takes line key after) (onBoundary : line.OnBoundary) :
    after.OnBoundary ↔ ¬line.Merges key := by
  cases isChange : line.changed? key with
  | none =>
    refine iff_of_true (takes.onBoundary_of_moves isChange onBoundary) ?_
    rintro ⟨changed, some, -⟩
    rw [isChange] at some
    cases some
  | some changed =>
    rw [EditLine.Merges, isChange, EditLine.onBoundary_iff, takes.eq_of_changed isChange]
    simp

end Takes

/-! ### Turns -/

namespace App

variable {app : App} {turn : Turn}

/-- The key event is text of a node, or moves the cursor in it. -/
structure Types (app : App) (event : KeyEvent) : Prop where
  editing : app.Editing
  pressed : event.released = false
  edits : event.Edits

/-- The key event types or deletes so that one cluster reaches over the cursor. -/
structure Merges (app : App) (event : KeyEvent) : Prop extends app.Types event where
  merges : app.editLine.Merges event.key

/-- The key event moves the cursor backwards or to an end of the text, or ends the edit. -/
structure Returns (app : App) (event : KeyEvent) : Prop where
  editing : app.Editing
  pressed : event.released = false
  key : event.key.Returns ∨ event.key = .enter ∨ event.key = .escape

theorem editLine_followSession (app : App) :
    app.followSession.editLine = app.editLine ∨ app.followSession.editLine.Placed := by
  unfold followSession
  split
  · next edit _ _ =>
    cases edit.cursor
    · exact .inr ⟨_, .inl rfl⟩
    · exact .inr ⟨_, .inr rfl⟩
  · exact .inl rfl

theorem editLine_runLine [TextWidth] (app : App) (line : String) :
    (app.runLine line).editLine = app.editLine ∨ (app.runLine line).editLine.Placed := by
  obtain ⟨status, output, ran⟩ := app.runLine_eq line
  rw [ran]
  exact editLine_followSession _

theorem editLine_finishEdit (app : App) : app.finishEdit.editLine = .empty := by
  unfold finishEdit
  dsimp only
  split <;> rfl

theorem editLine_saveKey [JsonLibrary] (app : App) (refusal : Option String) :
    (app.saveKey refusal).editLine = app.editLine := by
  unfold saveKey
  split
  · next saved =>
    obtain ⟨file, rfl⟩ := eq_of_save saved
    rfl
  · rfl

theorem editLine_quitKey (app : App) : app.quitKey.editLine = app.editLine := by
  unfold quitKey
  split <;> rfl

section

variable [TextWidth] [JsonLibrary]

theorem Types.takes (types : app.Types turn.event) :
    Takes app.editLine turn.event.key (app.handle turn).editLine := by
  rcases (types.editing.handle types.edits).line.of_single with ⟨released, -⟩ | ⟨-, takes⟩
  · exact absurd released (ne_true_of_eq_false types.pressed)
  · exact takes

/-- Saving and quitting in the middle of an edit leave the line alone. -/
theorem Editing.editLine_of_control (editing : app.Editing) (held : turn.event.control = true)
    (key : turn.event.key = .char 's' ∨ turn.event.key = .char 'q') :
    (app.handle turn).editLine = app.editLine := by
  unfold App.handle
  split
  · rfl
  · have shown : { app with output := none }.confirmQuit = false := editing.unasked
    rw [pressKey, shown, if_neg Bool.false_ne_true]
    rcases key with key | key <;> rw [held, key]
    · exact editLine_saveKey _ _
    · exact editLine_quitKey _

/-- Within an edit all other keys that are pressed save, quit or end it. -/
theorem Editing.editLine_of_not_types (editing : app.Editing) (still : ¬app.Types turn.event) :
    (app.handle turn).editLine = app.editLine ∨ (app.handle turn).editLine.Placed := by
  by_cases released : turn.event.released = true
  · rw [App.handle, if_pos released]
    exact .inl rfl
  have pressed : turn.event.released = false := eq_false_of_ne_true released
  by_cases control : turn.event.control = true ∧
      (turn.event.key = .char 's' ∨ turn.event.key = .char 'q')
  · exact .inl (editing.editLine_of_control control.1 control.2)
  by_cases ends : turn.event.key = .enter ∨ turn.event.key = .escape
  · rw [editing.handle_eq_finishEdit ⟨pressed, ends⟩, editLine_finishEdit]
    exact .inr ⟨"", .inl rfl⟩
  · obtain ⟨notEnter, notEscape⟩ := not_or.mp ends
    exact absurd ⟨editing, pressed, .inr ⟨notEnter, notEscape, control⟩⟩ still

/-- Other turns leave the line alone, begin an edit or end one. -/
theorem editLine_of_not_types (still : ¬app.Types turn.event) :
    (app.handle turn).editLine = app.editLine ∨ (app.handle turn).editLine.Placed := by
  cases (responds_handle app turn).response with
  | holds _ _ same => exact .inl same
  | switches _ _ _ same => exact .inl same
  | runs _ line _ _ same runs =>
    rw [runs, ← same]
    exact editLine_runLine _ line
  | finishes _ _ _ empty => exact .inr ⟨"", .inl empty⟩
  | types inside =>
    cases asked : app.confirmQuit with
    | true => exact .inl (handle_of_asked asked turn).1
    | false => exact Editing.editLine_of_not_types ⟨inside, asked⟩ still

/-- From a boundary the cursor gets away only if two texts run together, and then it does. -/
theorem onBoundary_handle_iff (onBoundary : app.editLine.OnBoundary) :
    (app.handle turn).editLine.OnBoundary ↔ ¬app.Merges turn.event := by
  by_cases types : app.Types turn.event
  · rw [types.takes.onBoundary_iff onBoundary]
    exact not_congr ⟨fun merges => ⟨types, merges⟩, (·.merges)⟩
  · refine iff_of_true ?_ fun merges => types merges.toTypes
    rcases editLine_of_not_types types with same | placed
    · rwa [same]
    · exact placed.onBoundary

theorem Returns.onBoundary (returns : app.Returns turn.event) :
    (app.handle turn).editLine.OnBoundary := by
  obtain ⟨editing, pressed, key | ends⟩ := returns
  · have edits : turn.event.Edits := by
      rcases key with key | key | key <;> simp [KeyEvent.Edits, key]
    exact Types.takes ⟨editing, pressed, edits⟩ |>.onBoundary_of_returns key
  · rw [editing.handle_eq_finishEdit ⟨pressed, ends⟩, editLine_finishEdit]
    exact EditLine.onBoundary_atStart ""

/-! ### Runs -/

/-- How a run has led the cursor into a cluster: two texts ran together at a turn, and no boundary has
been reached since. -/
structure Strayed (opened : App) (before : List Turn) (turn : Turn) (behind : List Turn) :
    Prop where
  boundary : (opened.run before).editLine.OnBoundary
  merges : (opened.run before).Merges turn.event
  inside : ∀ more, more <+: behind → ¬(opened.run (before ++ turn :: more)).editLine.OnBoundary

theorem Strayed.start {opened : App} {before : List Turn}
    (boundary : (opened.run before).editLine.OnBoundary)
    (merges : (opened.run before).Merges turn.event) : opened.Strayed before turn [] := by
  refine ⟨boundary, merges, fun more nothing => ?_⟩
  rw [List.prefix_nil.mp nothing, run_concat, onBoundary_handle_iff boundary]
  exact not_not_intro merges

theorem Strayed.concat {opened : App} {before behind : List Turn} {next : Turn}
    (strayed : opened.Strayed before turn behind)
    (inside : ¬(opened.run (before ++ turn :: behind ++ [next])).editLine.OnBoundary) :
    opened.Strayed before turn (behind ++ [next]) := by
  refine ⟨strayed.boundary, strayed.merges, fun more within => ?_⟩
  rcases List.prefix_concat_iff.mp within with rfl | earlier
  · simpa using inside
  · exact strayed.inside more earlier

theorem run_onBoundary_or_strayed {opened : App} (boundary : opened.editLine.OnBoundary)
    (turns : List Turn) :
    (opened.run turns).editLine.OnBoundary ∨
      ∃ before turn behind, turns = before ++ turn :: behind ∧
        opened.Strayed before turn behind := by
  induction turns using List.reverseRecOn with
  | nil => exact .inl boundary
  | append_singleton earlier last inductionHypothesis =>
    by_cases reached : (opened.run (earlier ++ [last])).editLine.OnBoundary
    · exact .inl reached
    right
    rcases inductionHypothesis with onBoundary | ⟨before, turn, behind, rfl, strayed⟩
    · have merges : (opened.run earlier).Merges last.event := by
        rw [run_concat, onBoundary_handle_iff onBoundary] at reached
        exact not_not.mp reached
      exact ⟨earlier, last, [], rfl, .start onBoundary merges⟩
    · exact ⟨before, turn, behind ++ [last], by simp, strayed.concat reached⟩

/-- In a run from an opened file the cursor stands on a boundary, unless a key that typed or deleted has
made two texts run together and none since has led back. From a boundary every such key leads away and no
other one does; some keys always lead back. -/
theorem cursor_strays_where_texts_merge {file : DocumentFile} {opened : App}
    (openedOk : openFile file = .ok opened) (turns : List Turn) :
    ((opened.run turns).editLine.OnBoundary ∨
      ∃ before turn behind, turns = before ++ turn :: behind ∧
        opened.Strayed before turn behind) ∧
    (∀ turn : Turn, (opened.run turns).editLine.OnBoundary →
      ((opened.run (turns ++ [turn])).editLine.OnBoundary ↔
        ¬(opened.run turns).Merges turn.event)) ∧
    ∀ turn : Turn, (opened.run turns).Returns turn.event →
      (opened.run (turns ++ [turn])).editLine.OnBoundary := by
  have boundary : opened.editLine.OnBoundary := by
    obtain ⟨document, -, rfl⟩ := exists_document_of_openFile openedOk
    exact EditLine.onBoundary_atStart ""
  refine ⟨run_onBoundary_or_strayed boundary turns, fun turn onBoundary => ?_,
    fun turn returns => ?_⟩
  · rw [run_concat, onBoundary_handle_iff onBoundary]
  · rw [run_concat]
    exact returns.onBoundary

end

attribute [local instance] Text.terminalWidth Json.library

/-- The keys that put an accent into a new node and go before it. -/
def accentKeys : List Turn := [.press (.char 'o'), .press (.char '\u0301'), .press .home]

/-- A letter typed before an accent takes it as its own. The end of the line is a boundary again. -/
theorem cursor_strays_into_accented_letter :
    let opened := start newFile sampleDocument
    let letter := Turn.press (.char 'e')
    (opened.run accentKeys).Merges letter.event ∧
      (∃ before turn behind, accentKeys ++ [letter] = before ++ turn :: behind ∧
        opened.Strayed before turn behind) ∧
      (opened.run (accentKeys ++ [letter] ++ [.press .toEnd])).editLine.OnBoundary := by
  intro opened letter
  have openedOk : openFile newFile = .ok opened := rfl
  have inside : ¬(opened.run (accentKeys ++ [letter])).editLine.OnBoundary := by decide +kernel
  obtain ⟨-, step, -⟩ := cursor_strays_where_texts_merge openedOk accentKeys
  obtain ⟨place, -, back⟩ := cursor_strays_where_texts_merge openedOk (accentKeys ++ [letter])
  refine ⟨?_, place.resolve_left inside, ?_⟩
  · exact not_not.mp (mt (step letter (by decide +kernel)).mpr inside)
  · exact back (.press .toEnd) ⟨⟨by decide, by decide⟩, rfl, .inl (.inr (.inr rfl))⟩

/-- The line then is one cluster, with the cursor inside of it. -/
theorem cursor_inside_accented_letter :
    let app := (start newFile sampleDocument).run (accentKeys ++ [.press (.char 'e')])
    app.Reachable ∧ app.editLine = ⟨"e", "\u0301"⟩ ∧ app.editLine.cursor = 1 ∧
      texts app.editLine.text = ["e\u0301"] ∧ ¬app.editLine.OnBoundary := by
  intro app
  have line : app.editLine = ⟨"e", "\u0301"⟩ := by decide +kernel
  refine ⟨⟨newFile, _, _, rfl, rfl⟩, line, ?_⟩
  rw [line]
  decide +kernel

end App

end MindMap
