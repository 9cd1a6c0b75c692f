import MindMap.Proofs.Session.Runs

/-!
# What requests and operations leave alone

A copy replaces the clipboard, the context menu is opened and closed by requests of its own, and the
number for fresh ids goes on with additions. All else leaves the three as they are, whether it succeeds
or not: `spares_apart`. An operation is the requests it makes, which `Operation.MayMake` bounds by the
command that the registry has under the name, or it is one that changes none of the three and no id of
the document: `leads_or_spares`.
-/

namespace MindMap

open CommandLine

/-- The requests that change the clipboard or the context menu. -/
def Request.SetsAside : Request → Prop
  | copyNode _ | openContextMenu .. | closeContextMenu => True
  | _ => False

/-- The requests that add nodes. -/
def Request.AddsNodes : Request → Prop
  | addChildNode .. | addSiblingNode .. | pasteNode _ => True
  | _ => False

/-- The requests that the command of a name can make. -/
def Registry.MayMake {ε : Type} [Executor ε] (registry : Registry ε) (name : String)
    (request : Request) : Prop :=
  ∃ command, registry.get? name = some command ∧ Executor.MayMake command.executor request

/-- The requests that an operation can make of a session. -/
def Operation.MayMake : Operation → Request → Prop
  | .call made, request => request = made
  | @Operation.executeLine _ _ registry line, request =>
    ∃ invocation, Invocation.ofLine line = .ok invocation ∧ registry.MayMake invocation.name request
  | @Operation.execute _ _ registry invocation, request => registry.MayMake invocation.name request
  | @Operation.dispatch _ _ registry _, request => Gesture.MayMake registry request
  | _, _ => False

/-! ### Steps that spare a part of the state -/

namespace HostM

variable {σ α β γ : Type} {part : σ → γ}

/-- The step leaves a part of the state as it was, whether it returns or fails. -/
def Spares (step : HostM σ α) (part : σ → γ) : Prop :=
  ∀ state, part (step.after state) = part state

namespace Spares

theorem pure (value : α) : (Pure.pure value : HostM σ α).Spares part := fun _ => rfl

theorem throw (failure : Failure) : (MonadExcept.throw failure : HostM σ α).Spares part :=
  fun _ => rfl

theorem get : (MonadState.get : HostM σ σ).Spares part := fun _ => rfl

theorem of_modify {change : σ → σ} (spares : ∀ state, part (change state) = part state) :
    (modify change : HostM σ PUnit).Spares part := spares

theorem bind {first : HostM σ α} {next : α → HostM σ β} (one : first.Spares part)
    (other : ∀ value, (next value).Spares part) : (first >>= next).Spares part := by
  intro state
  have kept := one state
  rw [after_bind]
  unfold HostM.after at kept
  cases run : first.run state with
  | ok value reached =>
    rw [run] at kept
    exact (other value reached).trans kept
  | error failure reached =>
    rw [run] at kept
    exact kept

theorem comp {δ : Type} {step : HostM σ α} (spares : step.Spares part) (view : γ → δ) :
    step.Spares (view ∘ part) := fun state => congrArg view (spares state)

theorem silently {step : HostM σ α} (spares : step.Spares part) : step.silently.Spares part := by
  intro state
  rw [after_silently]
  exact spares state

end Spares

end HostM

namespace Session

variable {session : Session}

/-- What most requests leave alone: the clipboard and the context menu. -/
def aside (session : Session) : Option Node × Option ContextMenu := (session.clipboard, session.menu)

/-- What all but a few kinds of requests leave alone: the number for fresh ids, too. -/
def apart (session : Session) : Nat × Option Node × Option ContextMenu :=
  (session.nextId, session.aside)

@[simp] theorem apart_setSelection (session : Session) (id : Option String) :
    (session.setSelection id).apart = session.apart := by
  unfold setSelection
  split <;> rfl

@[simp] theorem apart_setMode (session : Session) (mode : Mode) :
    (session.setMode mode).apart = session.apart := by
  unfold setMode
  dsimp only
  split <;> split <;> rfl

@[simp] theorem apart_forgetMissing (session : Session) :
    session.forgetMissing.apart = session.apart := by
  rw [forgetMissing_eq, forgetEdit, forgetSelection]
  split <;> split <;> simp

@[simp] theorem apart_startEdit (session : Session) (id : String) (cursor : CursorPlacement) :
    (session.startEdit id cursor).apart = session.apart :=
  session.apart_setSelection (some id)

theorem apart_grown (session : Session) (nextId : Nat) (larger : Forest) (id : String)
    (startEditing : Bool) :
    (session.grown nextId larger id startEditing).apart = (nextId, session.aside) := by
  have committed : ((session.countFrom nextId).commit larger).apart = (nextId, session.aside) := rfl
  unfold grown shown
  split <;> simp [committed]

theorem aside_grown (session : Session) (nextId : Nat) (larger : Forest) (id : String)
    (startEditing : Bool) :
    (session.grown nextId larger id startEditing).aside = session.aside :=
  congrArg Prod.snd (session.apart_grown nextId larger id startEditing)

theorem spares_findNode {γ : Type} {part : Session → γ} (id : String) :
    (findNode id).Spares part := by
  unfold findNode
  refine .bind .get fun session => ?_
  split
  · exact .pure _
  · exact .throw _

theorem spares_mutate {α : Type} (edit : Edit α) : (mutate edit).Spares apart := by
  intro session
  unfold HostM.after
  rw [run_mutate]
  cases edit.run session.document <;> rfl

theorem spares_updateNode (id : String) (update : Update) :
    (updateNode id update).Spares apart := by
  unfold updateNode
  split
  · exact .pure _
  · exact spares_mutate _

theorem spares_deleteNode (id : String) : (deleteNode id).Spares apart := by
  refine .bind .get fun session => .bind (spares_mutate _) fun _ => .of_modify fun session => ?_
  dsimp only
  split <;> simp

theorem spares_navigateToDirection (direction : Direction) :
    (navigateToDirection direction).Spares apart := by
  unfold navigateToDirection
  refine .bind .get fun session => ?_
  dsimp only
  split
  · exact .of_modify fun session => session.apart_setSelection _
  · exact .throw _

theorem apart_restore (session : Session) (document : Forest) :
    (session.restore document).apart = session.apart :=
  apart_forgetMissing _

theorem spares_undo : undo.Spares apart := by
  unfold undo
  refine .bind .get fun session => ?_
  split
  · exact .throw _
  · exact .of_modify fun session => apart_restore _ _

theorem spares_redo : redo.Spares apart := by
  unfold redo
  refine .bind .get fun session => ?_
  split
  · exact .throw _
  · exact .of_modify fun session => apart_restore _ _

theorem spares_beginEdit (id : String) (cursor : CursorPlacement) :
    (beginEdit id cursor).Spares apart :=
  .bind (spares_findNode id) fun _ => .of_modify fun session =>
    session.apart_setSelection (some id)

theorem spares_selectNode (id : Option String) : (selectNode id).Spares apart := by
  have selects : (modify (·.setSelection id) : HostM Session PUnit).Spares apart :=
    .of_modify fun session => session.apart_setSelection id
  cases id with
  | none => exact selects
  | some id => exact .bind (spares_findNode id) fun _ => selects

theorem spares_closeLists : closeLists.Spares apart :=
  .of_modify fun session => by split <;> rfl

theorem spares_toggleCollapse (id : String) : (toggleCollapse id).Spares apart := by
  unfold toggleCollapse
  refine .bind (spares_findNode id) fun node => .bind .get fun session =>
    .bind (spares_mutate _) fun _ => ?_
  split
  · exact .of_modify fun session => session.apart_setSelection _
  · exact .pure _

theorem spares_centerOnNode (id : String) : (centerOnNode id).Spares apart :=
  .bind (spares_findNode id) fun _ => .of_modify fun _ => rfl

theorem spares_finishEdit (text : Option String) : (finishEdit text).Spares apart := by
  have toNormal : (modify (·.setMode .normal) : HostM Session PUnit).Spares apart :=
    .of_modify fun session => session.apart_setMode .normal
  unfold finishEdit
  refine .bind .get fun session => ?_
  split
  · exact .pure _
  · next edit _ =>
    refine .bind (.of_modify fun _ => rfl) fun _ => ?_
    split
    · exact toNormal
    · refine .bind .get fun session => ?_
      dsimp only
      split
      · exact toNormal
      · exact .bind (spares_updateNode edit.id _) fun _ => toNormal

/-- No other request changes the number for fresh ids, the clipboard or the menu. -/
theorem spares_apart {request : Request} (noAddition : ¬request.AddsNodes)
    (keepsAside : ¬request.SetsAside) :
    (request.make : HostM Session (Option String)).Spares apart := by
  cases request with
  | addChildNode | addSiblingNode | pasteNode => exact absurd trivial noAddition
  | copyNode | openContextMenu | closeContextMenu => exact absurd trivial keepsAside
  | updateNode id update => exact (spares_updateNode id update).silently
  | deleteNode id => exact (spares_deleteNode id).silently
  | navigateToDirection direction => exact (spares_navigateToDirection direction).silently
  | undo => exact spares_undo.silently
  | redo => exact spares_redo.silently
  | startEditAtStart id => exact (spares_beginEdit id .atStart).silently
  | startEditAtEnd id => exact (spares_beginEdit id .atEnd).silently
  | selectNode id => exact (spares_selectNode id).silently
  | closeLists => exact spares_closeLists.silently
  | toggleCollapse id => exact (spares_toggleCollapse id).silently
  | moveNode id target placement => exact HostM.Spares.silently (spares_mutate _)
  | centerOnNode id => exact (spares_centerOnNode id).silently

theorem Adds.spares {α : Type} {step : HostM Session α} {value : String → α} {anchor : String}
    {startEditing : Bool} (adds : ∀ session, Adds step value anchor startEditing session) :
    step.Spares aside := by
  intro session
  rcases adds session with ⟨node, nextId, larger, -, -, run⟩ | ⟨-, run⟩
  · rw [HostM.after_of_ok run, aside_grown]
  · rw [HostM.after_of_error run]

theorem spares_pasteNode (parentId : String) : (pasteNode parentId).Spares aside := by
  intro session
  cases copied : session.clipboard with
  | none => rw [HostM.after_of_error (run_pasteNode_of_empty copied parentId)]
  | some node =>
    rcases adds_pasteNode copied parentId with ⟨node, nextId, larger, -, -, run⟩ | ⟨-, run⟩
    · rw [HostM.after_of_ok run, aside_grown]
    · rw [HostM.after_of_error run]

/-- An addition changes neither the clipboard nor the menu. -/
theorem spares_request {request : Request} (keepsAside : ¬request.SetsAside) :
    (request.make : HostM Session (Option String)).Spares aside := by
  cases request with
  | addChildNode id text startEditing =>
    exact Adds.spares (adds_addChildNode id text startEditing)
  | addSiblingNode id text startEditing =>
    exact Adds.spares (adds_addSiblingNode id text startEditing)
  | pasteNode id => exact (spares_pasteNode id).silently
  | _ => exact (spares_apart id keepsAside).comp Prod.snd

/-- What every allowed request leaves alone is the same wherever allowed requests lead to. -/
theorem spares_of_leads {γ : Type} {part : Session → γ} {allowed : Request → Prop} {after : Session}
    (leads : Host.LeadsBy allowed session after)
    (spares : ∀ request : Request, allowed request →
      (request.make : HostM Session (Option String)).Spares part) : part after = part session := by
  induction leads with
  | refl => rfl
  | call _ may inductionHypothesis => exact (spares _ may _).trans inductionHypothesis

/-! ### Operations -/

theorem leads_execute {ε : Type} [Executor ε] (session : Session) (registry : Registry ε)
    (invocation : Invocation) :
    Host.LeadsBy (registry.MayMake invocation.name) session
      (registry.execute invocation session).2 := by
  cases named : registry.get? invocation.name with
  | none =>
    rw [Registry.execute_unnamed named]
    exact .refl
  | some command =>
    exact (Registry.execute_leadsBy named session).mono fun _ may => ⟨command, named, may⟩

theorem ids_finishEdit (session : Session) (text : Option String) :
    ((finishEdit text).after session).document.ids = session.document.ids := by
  have run := run_finishEdit text session
  split at run
  · rw [HostM.after_of_ok run]
  · split at run
    · rw [HostM.after_of_ok run, document_setMode, document_dropEdit]
    · split at run
      · rw [HostM.after_of_ok run, document_setMode, document_dropEdit]
      · split at run
        · next changed =>
          rw [HostM.after_of_ok run, document_setMode, document_commit]
          exact Forest.ids_of_update? changed
        · rw [HostM.after_of_error run, document_dropEdit]

/-- An operation makes requests that it can make, or it makes none and leaves alone what additions,
copies and the context menu change, and the ids of the document. -/
theorem leads_or_spares (session : Session) (operation : Operation) :
    Host.LeadsBy operation.MayMake session (session.perform operation) ∨
      (∀ request, ¬operation.MayMake request) ∧
        (session.perform operation).apart = session.apart ∧
        (session.perform operation).document.ids = session.document.ids := by
  cases operation with
  | call request => exact .inl (.call .refl rfl)
  | setMode mode => exact .inr ⟨fun _ => id, session.apart_setMode mode, by simp [perform]⟩
  | finishEdit text =>
    exact .inr ⟨fun _ => id, spares_finishEdit text session, session.ids_finishEdit text⟩
  | setLinkList isOpen =>
    refine .inr ⟨fun _ => id, ?_⟩
    simp only [perform, setLinkList]
    split <;> exact ⟨rfl, rfl⟩
  | setAttachmentList isOpen =>
    refine .inr ⟨fun _ => id, ?_⟩
    simp only [perform, setAttachmentList]
    split <;> exact ⟨rfl, rfl⟩
  | setSpatial spatial => exact .inr ⟨fun _ => id, rfl, rfl⟩
  | markSaved => exact .inr ⟨fun _ => id, rfl, rfl⟩
  | executeLine registry line =>
    left
    change Host.LeadsBy _ session (registry.executeLine line session).2
    unfold Registry.executeLine
    cases read : Invocation.ofLine line with
    | error error => exact .refl
    | ok invocation =>
      exact (session.leads_execute registry invocation).mono fun _ may => ⟨invocation, read, may⟩
  | execute registry invocation => exact .inl (session.leads_execute registry invocation)
  | dispatch registry gesture => exact .inl (gesture.dispatch_leadsBy registry session)

end Session

end MindMap
