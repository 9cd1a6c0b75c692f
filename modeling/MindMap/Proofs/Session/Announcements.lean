import Mathlib.Data.List.Induction
import MindMap.Proofs.Session.Runs

/-!
# Changes are announced

Nothing that a view shows of a session changes in silence. Whatever an operation does, each part of
the session that differs afterwards has an announced change of its kind, and the versions of what
was announced follow one another from the version before the operation to the version after it. So
a session whose version has stayed is a session that looks as before.

Three parts of a session are not shown and not announced: the clipboard, the judgement of nearness
and the number that the next fresh id is searched from. Announcing a kind of change does not mean
that anything of that kind differs; an update may write what was there already.

Leaving insert mode is what needs the invariant. An edit is dropped whenever another mode than
insert is asked for, but the mode is announced only if it differs; since text is edited in insert
mode alone, an edit that is dropped is always announced.
-/

namespace MindMap

/-- Changes that lead from a version to another, one version at a time. -/
inductive Consecutive : Nat → List Change → Nat → Prop where
  | nil (version : Nat) : Consecutive version [] version
  | cons {version last : Nat} {later : List Change} (kind : ChangeKind)
      (rest : Consecutive (version + 1) later last) :
      Consecutive version (⟨kind, version, version + 1⟩ :: later) last

namespace Consecutive

theorem append {first middle last : Nat} {early late : List Change}
    (before : Consecutive first early middle) (after : Consecutive middle late last) :
    Consecutive first (early ++ late) last := by
  induction before with
  | nil => exact after
  | cons kind _ inductionHypothesis => exact .cons kind (inductionHypothesis after)

/-- There are as many changes as versions. -/
theorem length_eq {first last : Nat} {changes : List Change}
    (consecutive : Consecutive first changes last) : first + changes.length = last := by
  induction consecutive with
  | nil => rfl
  | cons _ _ inductionHypothesis =>
    rw [List.length_cons]
    omega

end Consecutive

namespace Session

variable {session : Session}

/-- The sessions agree in what changes of a kind are about. -/
def Agree (before after : Session) : ChangeKind → Prop
  | .document => after.document = before.document
  | .selection => after.selection = before.selection
  | .mode => after.mode = before.mode ∧ after.editing = before.editing
  | .panels =>
    after.menu = before.menu ∧ after.linkListOpen = before.linkListOpen ∧
      after.attachmentListOpen = before.attachmentListOpen
  | .view => after.centered = before.centered

theorem Agree.refl (session : Session) (kind : ChangeKind) : session.Agree session kind := by
  cases kind <;> simp [Agree]

theorem Agree.trans {middle after : Session} {kind : ChangeKind}
    (first : session.Agree middle kind) (second : middle.Agree after kind) :
    session.Agree after kind := by
  cases kind <;> simp_all [Agree]

/-- The changes are those announced on the way from one session to another, in their order, and
they say of every difference that there is one. -/
structure Announces (before after : Session) (changes : List Change) : Prop where
  announced : after.changes = changes.reverse ++ before.changes
  versions : Consecutive before.version changes after.version
  differs : ∀ kind, before.Agree after kind ∨ ∃ change ∈ changes, change.kind = kind

namespace Announces

variable {after : Session} {changes : List Change}

/-- Nothing is announced where nothing that is shown differs. -/
theorem silent (announced : after.changes = session.changes)
    (version : after.version = session.version) (agree : ∀ kind, session.Agree after kind) :
    session.Announces after [] where
  announced := announced
  versions := version ▸ .nil _
  differs kind := .inl (agree kind)

theorem trans {middle : Session} {early late : List Change} (first : session.Announces middle early)
    (second : middle.Announces after late) : session.Announces after (early ++ late) where
  announced := by simp [second.announced, first.announced]
  versions := first.versions.append second.versions
  differs := by
    intro kind
    rcases first.differs kind with same | ⟨change, member, isKind⟩
    · rcases second.differs kind with sameAgain | ⟨change, member, isKind⟩
      · exact .inl (same.trans sameAgain)
      · exact .inr ⟨change, List.mem_append_right _ member, isKind⟩
    · exact .inr ⟨change, List.mem_append_left _ member, isKind⟩

/-- A session of the same version agrees in all that is shown. -/
theorem agree (announces : session.Announces after changes)
    (sameVersion : after.version = session.version) (kind : ChangeKind) :
    session.Agree after kind := by
  have length := announces.versions.length_eq
  obtain rfl : changes = [] := List.length_eq_zero_iff.mp (by omega)
  simpa using announces.differs kind

end Announces

/-- All differences are announced, and the document counts as modified exactly if it did before or
its change has been announced. -/
def Reports (before after : Session) : Prop :=
  ∃ changes, before.Announces after changes ∧
    (after.modified = true ↔
      before.modified = true ∨ ∃ change ∈ changes, change.kind = .document)

namespace Reports

variable {after : Session}

theorem silent (announced : after.changes = session.changes)
    (version : after.version = session.version) (modified : after.modified = session.modified)
    (agree : ∀ kind, session.Agree after kind) : session.Reports after :=
  ⟨[], .silent announced version agree, by simp [modified]⟩

theorem refl (session : Session) : session.Reports session :=
  .silent rfl rfl rfl (Agree.refl session)

theorem trans {middle : Session} (first : session.Reports middle) (second : middle.Reports after) :
    session.Reports after := by
  obtain ⟨early, announcesEarly, modifiedEarly⟩ := first
  obtain ⟨late, announcesLate, modifiedLate⟩ := second
  refine ⟨early ++ late, announcesEarly.trans announcesLate, ?_⟩
  rw [modifiedLate, modifiedEarly]
  simp only [List.mem_append, or_assoc, or_and_right, exists_or]

/-- Where the document does not count as modified, it has not changed. -/
theorem unmodified (reports : session.Reports after) (unmodified : after.modified = false) :
    session.modified = false ∧ after.document = session.document := by
  obtain ⟨changes, announces, modified⟩ := reports
  rw [unmodified] at modified
  have none := not_or.mp (mt modified.mpr Bool.false_ne_true)
  exact ⟨eq_false_of_ne_true none.1, (announces.differs .document).resolve_right none.2⟩

/-- A change that is announced may differ from the session before in what its kind is about. -/
theorem announce {changed : Session} (kind : ChangeKind)
    (announced : changed.changes = session.changes) (version : changed.version = session.version)
    (modified : changed.modified = session.modified)
    (others : ∀ other, other ≠ kind → session.Agree changed other) :
    session.Reports (changed.announce kind) := by
  refine ⟨[⟨kind, session.version, session.version + 1⟩], ⟨?_, ?_, fun other => ?_⟩, ?_⟩
  · simp [Session.announce, announced, version]
  · simp only [Session.announce, version]
    exact .cons kind (.nil _)
  · by_cases same : other = kind
    · exact .inr ⟨_, List.mem_singleton_self _, same.symm⟩
    · exact .inl ((others other same).trans (by cases other <;> simp [Agree, Session.announce]))
  · simp [Session.announce, modified]

end Reports

/-! ### Changes -/

theorem reports_setSelection (session : Session) (id : Option String) :
    session.Reports (session.setSelection id) := by
  unfold setSelection
  split
  · exact .refl session
  · exact .announce .selection rfl rfl rfl fun other _ => by cases other <;> simp_all [Agree]

/-- A change of mode announces an edit that it drops, if text is edited in insert mode alone. -/
theorem reports_setMode (insert : ∀ edit, session.editing = some edit → session.mode = .insert)
    (mode : Mode) : session.Reports (session.setMode mode) := by
  unfold setMode
  dsimp only
  split
  · next same =>
    split
    · exact .refl session
    · next notInsert =>
      have noEdit : session.editing = none := by
        rw [Option.eq_none_iff_forall_ne_some]
        exact fun edit isOpen => notInsert (same ▸ insert edit isOpen)
      exact .silent rfl rfl rfl fun kind => by cases kind <;> simp [Agree, noEdit]
  · split
    · exact .announce .mode rfl rfl rfl fun other _ => by cases other <;> simp_all [Agree]
    · exact .announce .mode rfl rfl rfl fun other _ => by cases other <;> simp_all [Agree]

theorem reports_commit (session : Session) (document : Forest) :
    session.Reports (session.commit document) :=
  .announce .document rfl rfl rfl fun other _ => by cases other <;> simp_all [Agree]

theorem reports_startEdit (session : Session) (id : String) (cursor : CursorPlacement) :
    session.Reports (session.startEdit id cursor) :=
  (session.reports_setSelection (some id)).trans <|
    .announce .mode rfl rfl rfl fun other _ => by cases other <;> simp_all [Agree]

theorem reports_shown (session : Session) (id : String) (startEditing : Bool) :
    session.Reports (session.shown id startEditing) := by
  have selected := session.reports_setSelection (some id)
  unfold shown
  split
  · exact selected.trans (reports_startEdit _ id .atEnd)
  · exact selected

theorem reports_grown (session : Session) (nextId : Nat) (larger : Forest) (id : String)
    (startEditing : Bool) : session.Reports (session.grown nextId larger id startEditing) := by
  have counted : session.Reports (session.countFrom nextId) :=
    .silent rfl rfl rfl fun kind => by cases kind <;> simp [Agree, countFrom]
  exact (counted.trans (reports_commit _ larger)).trans (reports_shown _ id startEditing)

theorem reports_openMenu (session : Session) (x y : Float) (id : Option String) :
    session.Reports (session.openMenu x y id) :=
  .announce .panels rfl rfl rfl fun other _ => by cases other <;> simp_all [Agree]

/-- What is forgotten because it is missing is announced. -/
theorem reports_forgetMissing
    (insert : ∀ edit, session.editing = some edit → session.mode = .insert) :
    session.Reports session.forgetMissing := by
  have selected : session.Reports session.forgetSelection := by
    unfold forgetSelection
    split
    · exact reports_setSelection session none
    · exact .refl session
  rw [forgetMissing_eq]
  refine selected.trans ?_
  unfold forgetEdit
  split
  · exact reports_setMode (by simpa using insert) .normal
  · exact .refl _

/-- Going to a document of the history is announced, with what is forgotten in it. -/
theorem reports_restore {moved : Session} (consistent : session.Consistent)
    (same : moved = { session with past := moved.past, future := moved.future })
    (document : Forest) : session.Reports (moved.restore document) := by
  rw [same]
  have replaced : session.Reports
      ({ session with document, past := moved.past, future := moved.future }.announce .document) :=
    .announce .document rfl rfl rfl fun other _ => by cases other <;> simp_all [Agree]
  exact replaced.trans (reports_forgetMissing consistent.mode)

/-! ### Calls -/

theorem Reports.of_ok {α : Type} {step : HostM Session α} {value : α} {after : Session}
    (run : step.run session = .ok value after) (reports : session.Reports after) :
    session.Reports (step.after session) := by
  rwa [HostM.after_of_ok run]

/-- A step that fails without an effect has nothing to report. -/
theorem Reports.of_error {α : Type} {step : HostM Session α} {failure : Failure}
    (run : step.run session = .error failure session) : session.Reports (step.after session) := by
  rw [HostM.after_of_error run]
  exact .refl session

/-- A step that looks a node up, and reports what it does if the node is there. -/
theorem Reports.of_found {step : HostM Session Unit} {id : String} {after : Node → Session}
    (run : step.run session = match session.document.find? id with
      | some node => .ok () (after node)
      | none => .error (.nodeNotFound id) session)
    (reports : ∀ node, session.Reports (after node)) : session.Reports (step.after session) := by
  split at run
  · exact .of_ok run (reports _)
  · exact .of_error run

theorem Adds.reports {α : Type} {step : HostM Session α} {value : String → α} {anchor : String}
    {startEditing : Bool} (adds : Adds step value anchor startEditing session) :
    session.Reports (step.after session) := by
  rcases adds with ⟨node, nextId, larger, _, _, run⟩ | ⟨_, run⟩
  · exact .of_ok run (reports_grown session nextId larger node.id startEditing)
  · exact .of_error run

theorem reports_updateNode (id : String) (update : Update) (session : Session) :
    session.Reports ((updateNode id update).after session) := by
  have run := run_updateNode id update session
  split at run
  · exact .of_ok run (.refl session)
  · split at run
    · exact .of_ok run (reports_commit session _)
    · exact .of_error run

theorem reports_deleteNode (consistent : session.Consistent) (id : String) :
    session.Reports ((deleteNode id).after session) := by
  have run := run_deleteNode id session
  split at run
  · next document _ =>
    refine .of_ok run ((reports_commit session document).trans ?_)
    split
    · refine (reports_setSelection _ _).trans (reports_forgetMissing ?_)
      rw [editing_setSelection, mode_setSelection]
      exact consistent.mode
    · exact reports_forgetMissing consistent.mode
  · exact .of_error run

theorem reports_pasteNode (parentId : String) (session : Session) :
    session.Reports ((pasteNode parentId).after session) := by
  cases clipboard : session.clipboard with
  | none => exact .of_error (run_pasteNode_of_empty clipboard parentId)
  | some copied => exact (adds_pasteNode clipboard parentId).reports

theorem reports_toggleCollapse (id : String) (session : Session) :
    session.Reports ((toggleCollapse id).after session) := by
  have run := run_toggleCollapse id session
  split at run
  · split at run
    · next document _ =>
      have committed := session.reports_commit document
      dsimp only at run
      split at run
      · exact .of_ok run (committed.trans (reports_setSelection _ _))
      · exact .of_ok run committed
    · exact .of_error run
  · exact .of_error run

theorem reports_moveNode (consistent : session.Consistent) (id target : String)
    (placement : Placement) : session.Reports ((moveNode id target placement).after session) := by
  rcases run_moveNode consistent.document_distinct id target placement with
    ⟨document, _, run⟩ | ⟨failure, run⟩
  · exact .of_ok run (reports_commit session document)
  · exact .of_error run

theorem reports_undo (consistent : session.Consistent) : session.Reports (undo.after session) := by
  have run := run_undo session
  split at run
  · exact .of_error run
  · exact .of_ok run (reports_restore consistent rfl _)

theorem reports_redo (consistent : session.Consistent) : session.Reports (redo.after session) := by
  have run := run_redo session
  split at run
  · exact .of_error run
  · exact .of_ok run (reports_restore consistent rfl _)

theorem reports_navigateToDirection (direction : Direction) (session : Session) :
    session.Reports ((navigateToDirection direction).after session) := by
  have run := run_navigateToDirection direction session
  split at run
  · exact .of_ok run (reports_setSelection session _)
  · exact .of_error run

theorem reports_beginEdit (id : String) (cursor : CursorPlacement) (session : Session) :
    session.Reports ((beginEdit id cursor).after session) :=
  .of_found (run_beginEdit id cursor session) fun _ => reports_startEdit session id cursor

theorem reports_selectNode (id : Option String) (session : Session) :
    session.Reports ((selectNode id).after session) := by
  cases id with
  | none => exact reports_setSelection session none
  | some id => exact .of_found (run_selectNode (some id) session) fun _ => reports_setSelection _ _

theorem reports_copyNode (id : String) (session : Session) :
    session.Reports ((copyNode id).after session) :=
  .of_found (run_copyNode id session) fun _ =>
    .silent rfl rfl rfl fun kind => by cases kind <;> simp [Agree]

theorem reports_centerOnNode (id : String) (session : Session) :
    session.Reports ((centerOnNode id).after session) :=
  .of_found (run_centerOnNode id session) fun _ =>
    .announce .view rfl rfl rfl fun other _ => by cases other <;> simp_all [Agree]

theorem reports_openContextMenu (x y : Float) (id : Option String) (session : Session) :
    session.Reports ((openContextMenu x y id).after session) := by
  cases id with
  | none => exact reports_openMenu session x y none
  | some id =>
    exact .of_found (run_openContextMenu x y (some id) session) fun _ =>
      (session.reports_setSelection (some id)).trans (reports_openMenu _ x y (some id))

/-- Something about panels is closed and announced, unless it is closed already. -/
theorem reports_closing {isOpen : Bool} {closed : Session}
    (announced : closed.changes = session.changes) (version : closed.version = session.version)
    (modified : closed.modified = session.modified)
    (others : ∀ other, other ≠ .panels → session.Agree closed other) :
    session.Reports (if isOpen then closed.announce .panels else session) := by
  split
  · exact .announce .panels announced version modified others
  · exact .refl session

theorem reports_closeLists (session : Session) : session.Reports (closeLists.after session) :=
  reports_closing rfl rfl rfl fun other _ => by cases other <;> simp_all [Agree]

theorem reports_closeContextMenu (session : Session) :
    session.Reports (closeContextMenu.after session) :=
  reports_closing rfl rfl rfl fun other _ => by cases other <;> simp_all [Agree]

/-- The end of an edit announces the new text, if there is one, and the mode that it leaves. -/
theorem reports_finishEdit (consistent : session.Consistent) (text : Option String) :
    session.Reports ((finishEdit text).after session) := by
  -- The edit is dropped first, in silence. Leaving insert mode drops it as well, and says so.
  have left : session.Reports (session.dropEdit.setMode .normal) :=
    reports_setMode consistent.mode .normal
  have run := run_finishEdit text session
  split at run
  · exact .of_ok run (.refl session)
  · next edit isOpen =>
    split at run
    · exact .of_ok run left
    · split at run
      · exact .of_ok run left
      · split at run
        · next document _ =>
          have inserting : ∀ edit, (session.commit document).editing = some edit →
              (session.commit document).mode = .insert := consistent.mode
          exact .of_ok run <|
            (session.reports_commit document).trans (reports_setMode inserting .normal)
        · next notThere =>
          obtain ⟨document, changed⟩ :=
            Forest.exists_update?_of_mem_ids (consistent.editing edit isOpen) (.setText _)
          exact absurd (changed.symm.trans notThere) nofun

theorem Reports.silently {α : Type} {step : HostM Session α}
    (reports : session.Reports (step.after session)) :
    session.Reports (step.silently.after session) := by
  rwa [HostM.after_silently]

/-- Every call of a consistent session reports what it does. -/
theorem reports_call (consistent : session.Consistent) (request : Request) :
    session.Reports (request.make.after session) := by
  cases request with
  | updateNode id update => exact (reports_updateNode id update session).silently
  | deleteNode id => exact (reports_deleteNode consistent id).silently
  | navigateToDirection direction =>
    exact (reports_navigateToDirection direction session).silently
  | addChildNode id text startEditing =>
    exact (adds_addChildNode id text startEditing session).reports
  | addSiblingNode id text startEditing =>
    exact (adds_addSiblingNode id text startEditing session).reports
  | copyNode id => exact (reports_copyNode id session).silently
  | pasteNode id => exact (reports_pasteNode id session).silently
  | undo => exact (reports_undo consistent).silently
  | redo => exact (reports_redo consistent).silently
  | startEditAtStart id => exact (reports_beginEdit id .atStart session).silently
  | startEditAtEnd id => exact (reports_beginEdit id .atEnd session).silently
  | selectNode id => exact (reports_selectNode id session).silently
  | closeLists => exact (reports_closeLists session).silently
  | toggleCollapse id => exact (reports_toggleCollapse id session).silently
  | moveNode id target placement => exact (reports_moveNode consistent id target placement).silently
  | centerOnNode id => exact (reports_centerOnNode id session).silently
  | openContextMenu x y id => exact (reports_openContextMenu x y id session).silently
  | closeContextMenu => exact (reports_closeContextMenu session).silently

/-! ### Runs -/

theorem Consistent.reports_of_leads (consistent : session.Consistent) {after : Session}
    (leads : Host.Leads session after) : session.Reports after := by
  refine consistent.invariant_of_leads (fun middle request kept _ reports => ?_) leads
    (.refl session)
  exact reports.trans (reports_call kept request)

/-- Every operation but noting that the document has been saved reports what it does. -/
theorem Consistent.reports_perform (consistent : session.Consistent) {operation : Operation}
    (noSave : operation ≠ .markSaved) : session.Reports (session.perform operation) := by
  cases operation with
  | call request => exact reports_call consistent request
  | setMode mode => exact reports_setMode consistent.mode mode
  | finishEdit text => exact reports_finishEdit consistent text
  | setLinkList isOpen =>
    simp only [perform, setLinkList]
    split
    · exact .refl session
    · exact .announce .panels rfl rfl rfl fun other _ => by cases other <;> simp_all [Agree]
  | setAttachmentList isOpen =>
    simp only [perform, setAttachmentList]
    split
    · exact .refl session
    · exact .announce .panels rfl rfl rfl fun other _ => by cases other <;> simp_all [Agree]
  | setSpatial spatial =>
    exact .silent rfl rfl rfl fun kind => by cases kind <;> simp [Agree, perform, setSpatial]
  | markSaved => exact absurd rfl noSave
  | executeLine registry line =>
    exact consistent.reports_of_leads (registry.executeLine_leads line session)
  | execute registry invocation =>
    exact consistent.reports_of_leads (registry.execute_leads invocation session)
  | dispatch registry gesture =>
    exact consistent.reports_of_leads (gesture.dispatch_leads registry session)

theorem announces_markSaved (session : Session) : session.Announces session.markSaved [] :=
  .silent rfl rfl fun kind => by cases kind <;> simp [Agree, markSaved]

theorem Consistent.announces_perform (consistent : session.Consistent) (operation : Operation) :
    ∃ changes, session.Announces (session.perform operation) changes := by
  by_cases save : operation = .markSaved
  · subst save
    exact ⟨[], session.announces_markSaved⟩
  · obtain ⟨changes, announces, _⟩ := consistent.reports_perform save
    exact ⟨changes, announces⟩

theorem Consistent.reports_run (consistent : session.Consistent) {operations : List Operation}
    (noSave : .markSaved ∉ operations) : session.Reports (session.run operations) := by
  induction operations generalizing session with
  | nil => exact .refl session
  | cons operation rest inductionHypothesis =>
    have first := consistent.reports_perform fun save => noSave (save ▸ List.mem_cons_self)
    have noneLater : .markSaved ∉ rest := fun later => noSave (List.mem_cons_of_mem _ later)
    exact first.trans (inductionHypothesis (consistent.keeps_perform operation).1 noneLater)

/-! ### Unsaved changes -/

/-- The session has just been opened, or its document saved. -/
inductive JustSaved : Session → Prop where
  | opened {document : Forest} {session : Session} (created : create document = .ok session) :
      JustSaved session
  | saved {session : Session} (reachable : session.Reachable) : JustSaved session.markSaved

theorem JustSaved.consistent {saved : Session} (justSaved : saved.JustSaved) :
    saved.Consistent := by
  cases justSaved with
  | opened created => exact consistent_create created
  | saved reachable => exact (reachable.consistent.keeps_perform .markSaved).1

theorem JustSaved.modified {saved : Session} (justSaved : saved.JustSaved) :
    saved.modified = false := by
  cases justSaved with
  | opened created =>
    obtain ⟨_, rfl⟩ := create_eq_ok_iff.mp created
    rfl
  | saved => rfl

/-- A run of operations can be split at the last one that notes a save. -/
theorem exists_justSaved_run {opened : Session} {document : Forest}
    (created : create document = .ok opened) (operations : List Operation) :
    ∃ (saved : Session) (since : List Operation),
      saved.JustSaved ∧ .markSaved ∉ since ∧ saved.run since = opened.run operations := by
  induction operations using List.reverseRecOn with
  | nil => exact ⟨opened, [], .opened created, List.not_mem_nil, rfl⟩
  | append_singleton before operation inductionHypothesis =>
    by_cases save : operation = .markSaved
    · subst save
      refine ⟨(opened.run before).markSaved, [], .saved ⟨document, opened, before, created, rfl⟩,
        List.not_mem_nil, ?_⟩
      simp [run, perform]
    · obtain ⟨saved, since, justSaved, noSave, same⟩ := inductionHypothesis
      refine ⟨saved, since ++ [operation], justSaved, ?_, ?_⟩
      · simp [noSave, Ne.symm save]
      · simp only [run] at same
        simp [run, same]

/-- Nothing of a session changes in silence. -/
structure AnnouncesChanges (session : Session) : Prop where
  /-- Every operation, whether it succeeds or fails, announces all that it changes, one version
  after another. -/
  perform : ∀ operation, ∃ changes, session.Announces (session.perform operation) changes
  /-- What leaves the version leaves all that is shown. -/
  unchanged : ∀ operation, (session.perform operation).version = session.version →
    ∀ kind, session.Agree (session.perform operation) kind
  /-- The document counts as modified exactly if a change of it has been announced since the session
  was opened or last saved, and is the same as then if it does not. -/
  modified : ∀ (saved : Session) (since : List Operation),
    saved.JustSaved → .markSaved ∉ since → saved.run since = session →
    ∃ changes, saved.Announces session changes ∧
      (session.modified = true ↔ ∃ change ∈ changes, change.kind = .document) ∧
      (session.modified = false → session.document = saved.document)
  /-- There always is such a moment. -/
  saved : ∃ (saved : Session) (since : List Operation),
    saved.JustSaved ∧ .markSaved ∉ since ∧ saved.run since = session

/-- After any run of operations, nothing of a session changes in silence. -/
theorem Reachable.announcesChanges (reachable : session.Reachable) : session.AnnouncesChanges := by
  have consistent := reachable.consistent
  constructor
  case perform => exact consistent.announces_perform
  case unchanged =>
    intro operation sameVersion
    obtain ⟨changes, announces⟩ := consistent.announces_perform operation
    exact announces.agree sameVersion
  case modified =>
    rintro saved since justSaved noSave rfl
    obtain ⟨changes, announces, modified⟩ := justSaved.consistent.reports_run noSave
    rw [justSaved.modified] at modified
    have announced : (saved.run since).modified = true ↔
        ∃ change ∈ changes, change.kind = .document := by simpa using modified
    refine ⟨changes, announces, announced, fun unmodified => ?_⟩
    refine (announces.differs .document).resolve_right fun documentChanged => ?_
    rw [announced.mpr documentChanged] at unmodified
    exact Bool.noConfusion unmodified
  case saved =>
    obtain ⟨document, opened, operations, created, rfl⟩ := reachable
    exact exists_justSaved_run created operations

theorem announcesChanges_sprouting :
    sprouting.modified = true ∧ ∃ changes, (ofForest sapling).Announces sprouting changes ∧
      ∃ change ∈ changes, change.kind = .document := by
  have created : create sapling = .ok (ofForest sapling) := rfl
  have noSave : .markSaved ∉ [Operation.call (.addChildNode "trunk" none true)] := by simp
  obtain ⟨changes, announces, modified, _⟩ :=
    reachable_sprouting.announcesChanges.modified _ _ (.opened created) noSave rfl
  exact ⟨rfl, changes, announces, modified.mp rfl⟩

end Session

end MindMap
