import MindMap.Json.Library
import MindMap.Proofs.Outline.Ancestors
import MindMap.Proofs.Outline.Traversals
import MindMap.Proofs.Terminal.Responses
import MindMap.Terminal.Screen
import MindMap.Text.Grapheme
import MindMap.Text.Width

/-!
# Scrolling

Drawing scrolls the outline to the selected row, and nothing else scrolls it. So a selection in sight is
always among the rows that are drawn. Without one, drawing takes the outline where the last selection
in sight has left it. If the outline has become shorter since, nothing of it may be left there: that
is how it goes blank, and `undone_addition_blanks_outline` is a run in which it does.

Which cells a row is drawn in is not described here, nor that a message may be drawn over it.
-/

namespace MindMap

namespace Forest

variable {forest : Forest}

theorem rows_ne_nil (notEmpty : forest ≠ .nil) : forest.rows ≠ [] := by
  cases forest with
  | nil => exact absurd rfl notEmpty
  | cons => exact List.cons_ne_nil _ _

end Forest

namespace App

variable {app : App}

/-! ### Drawing -/

/-- The selected node is in sight. -/
def ShowsSelection (app : App) : Prop :=
  ∃ id, app.session.selection = some id ∧ app.session.document.Shows id

/-- A selection in sight has a row. -/
theorem exists_selectedRow? (distinct : app.session.document.Distinct) {id : String}
    (selected : app.session.selection = some id) (shows : app.session.document.Shows id) :
    ∃ row, app.selectedRow? = some row := by
  obtain ⟨node, visible, sameId⟩ := distinct.shows_iff_mem_visible.mp shows
  rw [← Forest.map_rowsFrom 0] at visible
  obtain ⟨row, isRow, rfl⟩ := List.mem_map.mp visible
  rw [← Option.isSome_iff_exists, selectedRow?, List.findIdx?_isSome, List.any_eq_true]
  exact ⟨row, isRow, by simp [selected, sameId]⟩

/-- The selected row is that of the selected node. -/
theorem getElem_of_selectedRow? {row : Nat} (isSelected : app.selectedRow? = some row) :
    ∃ bound : row < app.rows.length, some app.rows[row].2.id = app.session.selection := by
  obtain ⟨bound, selects, -⟩ := List.findIdx?_eq_some_iff_getElem.mp isSelected
  exact ⟨bound, by simpa using selects⟩

theorem showsSelection_of_selectedRow? (distinct : app.session.document.Distinct) {row : Nat}
    (isSelected : app.selectedRow? = some row) : app.ShowsSelection := by
  obtain ⟨bound, selected⟩ := getElem_of_selectedRow? isSelected
  refine ⟨_, selected.symm, distinct.shows_iff_mem_visible.mpr ⟨app.rows[row].2, ?_, rfl⟩⟩
  rw [← Forest.map_rowsFrom 0]
  exact List.mem_map_of_mem (List.getElem_mem bound)

/-- Where the selection has a row, drawing scrolls so that it is among the rows that fit. -/
theorem scrolledTop_of_selectedRow? {row height : Nat} (isSelected : app.selectedRow? = some row)
    (room : 0 < height) :
    app.scrolledTop height ≤ row ∧ row < app.scrolledTop height + height := by
  unfold scrolledTop
  rw [isSelected]
  dsimp only
  split
  · omega
  · split
    · omega
    · next fits =>
      simp only [Bool.and_eq_true, decide_eq_true_eq, not_and] at fits
      have := fits room
      omega

/-- Even where no row fits, drawing does not scroll past the selected row. -/
theorem scrolledTop_le {row : Nat} (isSelected : app.selectedRow? = some row) (height : Nat) :
    app.scrolledTop height ≤ row := by
  unfold scrolledTop
  rw [isSelected]
  dsimp only
  split
  · exact Nat.le_refl row
  · split
    · next past =>
      simp only [Bool.and_eq_true, decide_eq_true_eq] at past
      omega
    · omega

theorem scrolledTop_of_none (none : app.selectedRow? = none) (height : Nat) :
    app.scrolledTop height = app.scrollTop := by
  rw [scrolledTop, none]

/-- The rows that are drawn are those from the first one on that fit. -/
theorem mem_shownRows {row height : Nat} (bound : row < app.rows.length)
    (notAbove : app.scrollTop ≤ row) (fits : row < app.scrollTop + height) :
    (app.rows[row], row) ∈ app.shownRows height := by
  unfold shownRows
  refine List.mem_iff_getElem.mpr ⟨row - app.scrollTop, ?_, ?_⟩
  · simp only [List.length_take, List.length_drop, List.length_zipIdx]
    omega
  · have index : app.scrollTop + (row - app.scrollTop) = row := by omega
    simp [index]

/-- Rows are drawn from the first one on, if there is one and there is room. -/
theorem shownRows_ne_nil {height : Nat} (room : 0 < height)
    (above : app.scrollTop < app.rows.length) : app.shownRows height ≠ [] :=
  List.ne_nil_of_mem (mem_shownRows above (Nat.le_refl _) (by omega))

theorem selected_is_drawn (distinct : app.session.document.Distinct) {height : Nat}
    (room : 0 < height) {id : String} (selected : app.session.selection = some id)
    (shows : app.session.document.Shows id) :
    ∃ row ∈ (app.scroll height).shownRows height, row.1.2.id = id := by
  obtain ⟨row, isSelected⟩ := exists_selectedRow? distinct selected shows
  obtain ⟨bound, isId⟩ := getElem_of_selectedRow? isSelected
  obtain ⟨notAbove, fits⟩ := scrolledTop_of_selectedRow? isSelected room
  have drawn := @mem_shownRows (app.scroll height) row height bound notAbove fits
  exact ⟨_, drawn, Option.some.inj (isId.trans selected)⟩

/-! ### Keys and drawing in turn -/

/-- What the loop of the terminal does with the application. -/
inductive Step where
  | turn (turn : Turn)
  | render (width height : Nat)

/-- The number of rows of the outline that fit on a screen. -/
def outlineHeight (width height : Nat) : Nat := (areas width height).1.inner.height

theorem outlineHeight_pos {width height : Nat} (room : 3 ≤ (areas width height).1.height) :
    0 < outlineHeight width height := by
  change 0 < (areas width height).1.height - 2
  omega

theorem draw_eq [TextWidth] [Segmentation] (app : App) (width height : Nat) :
    (app.draw width height).1 = app.scroll (outlineHeight width height) := rfl

section

variable [TextWidth] [Segmentation] [JsonLibrary]

/-- The application after a step. -/
def take (app : App) : Step → App
  | .turn turn => app.handle turn
  | .render width height => (app.draw width height).1

/-- The application after steps, one after another. -/
def course (app : App) (steps : List Step) : App := steps.foldl take app

theorem course_concat (app : App) (steps : List Step) (last : Step) :
    app.course (steps ++ [last]) = (app.course steps).take last := by
  simp [course]

theorem consistent_course (consistent : app.session.Consistent) (steps : List Step) :
    (app.course steps).session.Consistent := by
  induction steps using List.reverseRecOn with
  | nil => exact consistent
  | append_singleton before last inductionHypothesis =>
    rw [course_concat]
    cases last with
    | turn turn =>
      obtain ⟨operations, session⟩ := session_handle (app.course before) turn
      rw [take, session]
      exact (inductionHypothesis.keeps_run operations).1
    | render width height => exact inductionHypothesis

/-- In the course of the steps, the application has been drawn as it was here. -/
def Draws (app : App) (steps : List Step) (drawn : App) : Prop :=
  ∃ before width height after, steps = before ++ .render width height :: after ∧
    app.course before = drawn

theorem Draws.append {steps : List Step} {drawn : App} (draws : app.Draws steps drawn)
    (last : Step) : app.Draws (steps ++ [last]) drawn := by
  obtain ⟨before, width, height, after, rfl, isDrawn⟩ := draws
  exact ⟨before, width, height, after ++ [last], by simp, isDrawn⟩

/-- The outline is where it was at first, or where a selection in sight has left it, above the end of
the outline as it was then. -/
def ScrolledBy (app : App) (steps : List Step) : Prop :=
  (app.course steps).scrollTop = app.scrollTop ∨
    ∃ drawn, app.Draws steps drawn ∧ drawn.ShowsSelection ∧
      (app.course steps).scrollTop < drawn.rows.length

theorem ScrolledBy.still {steps : List Step} (scrolledBy : app.ScrolledBy steps) {last : Step}
    (same : ((app.course steps).take last).scrollTop = (app.course steps).scrollTop) :
    app.ScrolledBy (steps ++ [last]) := by
  unfold ScrolledBy
  rw [course_concat, same]
  refine scrolledBy.imp_right ?_
  rintro ⟨drawn, draws, shows, above⟩
  exact ⟨drawn, draws.append last, shows, above⟩

theorem scrolledBy_course (consistent : app.session.Consistent) (steps : List Step) :
    app.ScrolledBy steps := by
  induction steps using List.reverseRecOn with
  | nil => exact .inl rfl
  | append_singleton before last inductionHypothesis =>
    cases last with
    | turn turn => exact inductionHypothesis.still (responds_handle _ turn).scrollTop
    | render width height =>
      cases selected : (app.course before).selectedRow? with
      | none => exact inductionHypothesis.still (scrolledTop_of_none selected _)
      | some row =>
        have distinct := (consistent_course consistent before).document_distinct
        obtain ⟨bound, -⟩ := getElem_of_selectedRow? selected
        refine .inr ⟨app.course before, ⟨before, width, height, [], rfl, rfl⟩,
          showsSelection_of_selectedRow? distinct selected, ?_⟩
        rw [course_concat]
        exact Nat.lt_of_le_of_lt (scrolledTop_le selected _) bound

/-- A selection in sight has its row drawn. And rows of an outline that is not empty are drawn, unless no
selection is in sight and the outline has been longer when one was, at an earlier drawing. -/
theorem outline_is_drawn {file : DocumentFile} (opened : openFile file = .ok app)
    (steps : List Step) {width height : Nat} (room : 3 ≤ (areas width height).1.height) :
    let drawn := ((app.course steps).draw width height).1
    let shown := drawn.shownRows (outlineHeight width height)
    (∀ id, drawn.session.selection = some id → drawn.session.document.Shows id →
      ∃ row ∈ shown, row.1.2.id = id) ∧
    (drawn.session.document ≠ .nil →
      (drawn.ShowsSelection ∨ ∀ earlier, app.Draws steps earlier → earlier.ShowsSelection →
        earlier.rows.length ≤ drawn.rows.length) →
      drawn.scrollTop < drawn.rows.length ∧ shown ≠ []) := by
  obtain ⟨document, distinct, rfl⟩ := exists_document_of_openFile opened
  have consistent := (reachable_session_start file distinct).consistent
  have distinctNow := (consistent_course consistent steps).document_distinct
  have fits := outlineHeight_pos room
  dsimp only
  rw [draw_eq]
  refine ⟨fun id selected shows => selected_is_drawn distinctNow fits selected shows,
    fun notEmpty stays => ?_⟩
  have above : ((start file document).course steps).scrolledTop (outlineHeight width height) <
      ((start file document).course steps).rows.length := by
    cases selected : ((start file document).course steps).selectedRow? with
    | some row =>
      obtain ⟨bound, -⟩ := getElem_of_selectedRow? selected
      exact Nat.lt_of_le_of_lt (scrolledTop_le selected _) bound
    | none =>
      rw [scrolledTop_of_none selected]
      rcases scrolledBy_course consistent steps with atStart | ⟨earlier, draws, showed, above⟩
      · rw [atStart]
        exact List.length_pos_iff.mpr (Forest.rows_ne_nil notEmpty)
      · rcases stays with ⟨id, isSelected, shows⟩ | noLonger
        · obtain ⟨row, isRow⟩ := exists_selectedRow? distinctNow isSelected shows
          rw [isRow] at selected
          cases selected
        · exact Nat.lt_of_lt_of_le above (noLonger earlier draws showed)
  exact ⟨above, shownRows_ne_nil fits above⟩

end

attribute [local instance] Text.terminalWidth Text.extendedClusters Json.library

/-- A sibling of the only root has been added, drawn, and left as it is. -/
def leftEmpty : List Step :=
  [.render 20 5, .turn (.press (.char 'o')), .render 20 5, .turn (.press .enter)]

/-- With room for one row, the new node is drawn in it. -/
theorem new_node_is_drawn :
    let drawn := (((start newFile sampleDocument).course leftEmpty).draw 20 5).1
    drawn.scrollTop = 6 ∧ ∃ row ∈ drawn.shownRows (outlineHeight 20 5), row.1.2.id = "node-1" := by
  have opened : openFile newFile = .ok (start newFile sampleDocument) := rfl
  exact ⟨by decide, (outline_is_drawn opened leftEmpty (show 3 ≤ (areas 20 5).1.height by decide)).1
    "node-1" (by decide) (by decide)⟩

/-- Undoing the addition forgets the selection and leaves the outline where the new node was. -/
theorem undone_addition_blanks_outline :
    let app := start newFile sampleDocument
    let drawn := ((app.course (leftEmpty ++ [.render 20 5, .turn (.press (.char 'u'))])).draw 20 5).1
    openFile newFile = .ok app ∧ 3 ≤ (areas 20 5).1.height ∧
      drawn.rows.length = 6 ∧ ¬drawn.scrollTop < drawn.rows.length ∧
      drawn.shownRows (outlineHeight 20 5) = [] := by
  refine ⟨rfl, by decide, by decide, by decide, ?_⟩
  exact List.eq_nil_of_length_eq_zero (by decide)

end App

end MindMap
