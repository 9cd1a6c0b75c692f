import MindMap.Proofs.Session.Runs

/-!
# Failed calls have no effect

A call of a reachable session that fails leaves the whole session as it was, with its history,
clipboard, version and next id, and has announced nothing. For most operations this is so because
they look before they change anything. Three go on after a first change: additions and pasting,
which then expand the parent and may begin an edit, and the end of an edit, which has let go of the
edit before it writes the text. They cannot fail any more at that point.
-/

namespace MindMap

namespace Session

variable {session : Session} {α : Type}

/-- The step leaves the session as it was if it fails. -/
def Atomic (step : HostM Session α) (session : Session) : Prop :=
  ∀ failure reached, step.run session = .error failure reached → reached = session

theorem Settles.atomic {step : HostM Session α} {move : HistoryMove}
    (settles : Settles step move session) : Atomic step session := by
  intro failure reached failed
  rcases settles with ⟨_, run⟩ | ⟨_, _, run, _⟩
  · rw [run] at failed
    cases failed
    rfl
  · rw [run] at failed
    cases failed

theorem Consistent.atomic_call (consistent : session.Consistent) (request : Request) :
    Atomic request.make session :=
  (settles_call consistent request).atomic

/-! ### Steps that go on after a change -/

theorem editing_shown (session : Session) (id : String) :
    (session.shown id true).editing = some ⟨id, .atEnd⟩ := rfl

/-- Where there is an anchor, a subtree is added and, if asked, edited. -/
theorem Adds.succeeds {step : HostM Session α} {value : String → α} {anchor : String}
    {startEditing : Bool} (adds : Adds step value anchor startEditing session)
    (present : session.document.contains anchor) :
    ∃ id after, step.run session = .ok (value id) after ∧ after.document.contains id ∧
      (startEditing → after.editing = some ⟨id, .atEnd⟩) := by
  rcases adds with ⟨node, nextId, larger, _, gains, run⟩ | ⟨missing, _⟩
  · refine ⟨_, _, run, ?_, ?_⟩
    · rw [document_grown]
      exact Forest.contains_iff_mem_ids.mpr gains.id_mem_ids
    · rintro rfl
      exact editing_shown _ node.id
  · exact absurd (Forest.contains_iff_mem_ids.mp present) missing

/-- What fails of a session fails without an effect, and what has begun goes through. -/
structure FailsCleanly (session : Session) : Prop where
  call : ∀ request : Request, Atomic request.make session
  /-- The end of an edit does not fail at all. -/
  finishEdit : ∀ text, ∃ after, (Session.finishEdit text).run session = .ok () after
  /-- Once a subtree has been inserted, its parent can be expanded. -/
  expandParent : ∀ node parent placed,
    (Edit.insert node parent .child).run session.document = .ok () placed →
    ∃ larger, (Edit.update parent (.setCollapsed false)).run placed = .ok () larger
  /-- Once a node has been added, it can be edited. -/
  addChildNode : ∀ parent text startEditing, session.document.contains parent →
    ∃ id after,
      (Session.addChildNode parent text startEditing).run session = .ok (some id) after ∧
      after.document.contains id ∧ (startEditing → after.editing = some ⟨id, .atEnd⟩)
  addSiblingNode : ∀ anchor text startEditing, session.document.contains anchor →
    ∃ id after,
      (Session.addSiblingNode anchor text startEditing).run session = .ok (some id) after ∧
      after.document.contains id ∧ (startEditing → after.editing = some ⟨id, .atEnd⟩)
  pasteNode : ∀ parent, session.document.contains parent → session.clipboard.isSome →
    ∃ after, (Session.pasteNode parent).run session = .ok () after

/-- After any run of operations, failed calls have no effect. -/
theorem Reachable.failsCleanly (reachable : session.Reachable) : session.FailsCleanly := by
  have consistent := reachable.consistent
  constructor
  case call => exact consistent.atomic_call
  case finishEdit =>
    intro text
    obtain ⟨after, run, _⟩ := settles_finishEdit consistent text
    exact ⟨after, run⟩
  case expandParent =>
    intro node parent placed inserted
    obtain ⟨larger, _, updated⟩ := Edit.run_update_of_run_insert inserted (.setCollapsed false)
    exact ⟨larger, updated⟩
  case addChildNode =>
    intro parent text startEditing present
    exact (adds_addChildNode parent text startEditing session).succeeds present
  case addSiblingNode =>
    intro anchor text startEditing present
    exact (adds_addSiblingNode anchor text startEditing session).succeeds present
  case pasteNode =>
    intro parent present copied
    obtain ⟨node, clipboard⟩ := Option.isSome_iff_exists.mp copied
    obtain ⟨_, after, run, _⟩ := (adds_pasteNode clipboard parent).succeeds present
    exact ⟨after, run⟩

theorem failsCleanly_sprouting :
    (∃ reached, (Request.deleteNode "elsewhere").make.run sprouting =
      .error (.nodeNotFound "elsewhere") reached ∧ reached = sprouting) ∧
    ∃ after, (Session.finishEdit (some "Leaf")).run sprouting = .ok () after :=
  ⟨⟨_, rfl, reachable_sprouting.failsCleanly.call (.deleteNode "elsewhere") _ _ rfl⟩,
    reachable_sprouting.failsCleanly.finishEdit (some "Leaf")⟩

end Session

end MindMap
