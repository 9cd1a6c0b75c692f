import MindMap.Host

/-!
# Calls of a host

A call of a host makes a `Request` of it. Whoever is handed a host changes it through calls alone: the
state that is left, be it by success or by failure, is one that a run of calls leads to. So what every
call preserves, every command line, invocation and gesture does, for any host. A run can be held to some
requests, and then needs to preserve only what these do.

In which order calls are made, and how their outcomes become a reply, is not recorded by
`Host.LeadsBy`.
-/

namespace MindMap

/-- A request for an operation of a host. -/
inductive Request where
  | updateNode (id : String) (update : Update)
  | deleteNode (id : String)
  | navigateToDirection (direction : Direction)
  | addChildNode (id : String) (text : Option String) (startEditing : Bool)
  | addSiblingNode (id : String) (text : Option String) (startEditing : Bool)
  | copyNode (id : String)
  | pasteNode (id : String)
  | undo
  | redo
  | startEditAtStart (id : String)
  | startEditAtEnd (id : String)
  | selectNode (id : Option String)
  | closeLists
  | toggleCollapse (id : String)
  | moveNode (id target : String) (placement : Placement)
  | centerOnNode (id : String)
  | openContextMenu (x y : Float) (id : Option String)
  | closeContextMenu

/-- The name of the operation that is asked for. -/
def Request.operation : Request → String
  | .updateNode .. => "updateNode"
  | .deleteNode _ => "deleteNode"
  | .navigateToDirection _ => "navigateToDirection"
  | .addChildNode .. => "addChildNode"
  | .addSiblingNode .. => "addSiblingNode"
  | .copyNode _ => "copyNode"
  | .pasteNode _ => "pasteNode"
  | .undo => "undo"
  | .redo => "redo"
  | .startEditAtStart _ => "startEditWithCursorAtStart"
  | .startEditAtEnd _ => "startEditWithCursorAtEnd"
  | .selectNode _ => "selectNode"
  | .closeLists => "closeAttachmentAndLinkLists"
  | .toggleCollapse _ => "toggleCollapse"
  | .moveNode .. => "moveNode"
  | .centerOnNode _ => "centerOnNode"
  | .openContextMenu .. => "openContextMenu"
  | .closeContextMenu => "closeContextMenu"

/-- The requests that open or close the context menu. -/
def Request.SetsMenu : Request → Prop
  | openContextMenu .. | closeContextMenu => True
  | _ => False

namespace HostM

variable {σ α β : Type}

/-- The state that a step leaves, whether it returns or fails. -/
def after (step : HostM σ α) (state : σ) : σ :=
  match step.run state with
  | .ok _ reached => reached
  | .error _ reached => reached

theorem after_of_ok {step : HostM σ α} {state reached : σ} {value : α}
    (run : step.run state = .ok value reached) : step.after state = reached := by
  rw [after, run]

theorem after_of_error {step : HostM σ α} {state reached : σ} {failure : Failure}
    (run : step.run state = .error failure reached) : step.after state = reached := by
  rw [after, run]

theorem after_bind (first : HostM σ α) (next : α → HostM σ β) (state : σ) :
    (first >>= next).after state =
      match first.run state with
      | .ok value reached => (next value).after reached
      | .error _ reached => reached := by
  unfold after
  rw [EStateM.run_bind]
  cases first.run state <;> rfl

/-- Two steps succeed one after the other exactly if the second does from where the first led. -/
theorem run_bind_eq_ok {first : HostM σ α} {next : α → HostM σ β} {state reached : σ} {value : β} :
    (first >>= next).run state = .ok value reached ↔
      ∃ between middle, first.run state = .ok between middle ∧
        (next between).run middle = .ok value reached := by
  rw [EStateM.run_bind]
  cases first.run state with
  | ok between middle => simp [and_assoc]
  | error failure middle => simp

theorem run_tryCatch (body : HostM σ α) (handler : Failure → HostM σ α) (state : σ) :
    (tryCatch body handler).run state =
      match body.run state with
      | .ok value reached => .ok value reached
      | .error failure reached => (handler failure).run reached := by
  unfold EStateM.run
  change EStateM.tryCatch body handler state = _
  unfold EStateM.tryCatch
  cases body state <;> rfl

/-- A handler goes on from the state that the failure left. -/
theorem after_tryCatch (body : HostM σ α) (handler : Failure → HostM σ α) (state : σ) :
    (tryCatch body handler).after state =
      match body.run state with
      | .ok _ reached => reached
      | .error failure reached => (handler failure).after reached := by
  unfold after
  rw [run_tryCatch]
  cases body.run state <;> rfl

/-- Forget what a step returns. -/
def silently (step : HostM σ α) : HostM σ (Option String) := do
  let _ ← step
  return none

theorem run_silently (step : HostM σ α) (state : σ) :
    step.silently.run state =
      match step.run state with
      | .ok _ reached => .ok none reached
      | .error failure reached => .error failure reached := by
  unfold silently
  rw [EStateM.run_bind]
  cases step.run state <;> rfl

@[simp] theorem after_silently (step : HostM σ α) (state : σ) :
    step.silently.after state = step.after state := by
  unfold after
  rw [run_silently]
  cases step.run state <;> rfl

end HostM

section

variable {σ α β : Type} [Host σ]

/-- Make a request of a host. Only the additions of a node return anything, the id of the new node.
-/
def Request.make : Request → HostM σ (Option String)
  | updateNode id update => (Host.updateNode id update).silently
  | deleteNode id => (Host.deleteNode id).silently
  | navigateToDirection direction => (Host.navigateToDirection direction).silently
  | addChildNode id text startEditing => Host.addChildNode id text startEditing
  | addSiblingNode id text startEditing => Host.addSiblingNode id text startEditing
  | copyNode id => (Host.copyNode id).silently
  | pasteNode id => (Host.pasteNode id).silently
  | undo => Host.undo.silently
  | redo => Host.redo.silently
  | startEditAtStart id => (Host.startEditAtStart id).silently
  | startEditAtEnd id => (Host.startEditAtEnd id).silently
  | selectNode id => (Host.selectNode id).silently
  | closeLists => Host.closeLists.silently
  | toggleCollapse id => (Host.toggleCollapse id).silently
  | moveNode id target placement => (Host.moveNode id target placement).silently
  | centerOnNode id => (Host.centerOnNode id).silently
  | openContextMenu x y id => (Host.openContextMenu x y id).silently
  | closeContextMenu => Host.closeContextMenu.silently

/-- The states that calls of allowed requests lead to, one after another, whether they succeed or
fail. -/
inductive Host.LeadsBy (allowed : Request → Prop) (start : σ) : σ → Prop where
  | refl : Host.LeadsBy allowed start start
  | call {state : σ} (prior : Host.LeadsBy allowed start state) {request : Request}
      (may : allowed request) : Host.LeadsBy allowed start (request.make.after state)

/-- The states that any calls lead to. -/
abbrev Host.Leads (start final : σ) : Prop := Host.LeadsBy (fun _ => True) start final

namespace Host.LeadsBy

variable {start middle final : σ} {allowed : Request → Prop}

theorem trans (first : Host.LeadsBy allowed start middle)
    (second : Host.LeadsBy allowed middle final) : Host.LeadsBy allowed start final := by
  induction second with
  | refl => exact first
  | call _ may inductionHypothesis => exact .call inductionHypothesis may

theorem mono {more : Request → Prop} (leads : Host.LeadsBy allowed start final)
    (included : ∀ request, allowed request → more request) : Host.LeadsBy more start final := by
  induction leads with
  | refl => exact .refl
  | call _ may inductionHypothesis => exact .call inductionHypothesis (included _ may)

theorem leads (leads : Host.LeadsBy allowed start final) : Host.Leads start final :=
  leads.mono fun _ _ => trivial

/-- What every allowed call preserves holds wherever allowed calls lead to. -/
theorem invariant {property : σ → Prop}
    (preserved : ∀ (state : σ) (request : Request), allowed request →
      property state → property (request.make.after state))
    (leads : Host.LeadsBy allowed start final) (initially : property start) : property final := by
  induction leads with
  | refl => exact initially
  | call _ may inductionHypothesis => exact preserved _ _ may inductionHypothesis

/-- Allowed calls one after another. -/
theorem foldl {requests : List Request} (may : ∀ request ∈ requests, allowed request) (start : σ) :
    Host.LeadsBy allowed start
      (requests.foldl (fun reached request => request.make.after reached) start) := by
  induction requests generalizing start with
  | nil => exact .refl
  | cons first rest inductionHypothesis =>
    obtain ⟨mayFirst, mayRest⟩ := List.forall_mem_cons.mp may
    exact .trans (.call .refl mayFirst) (inductionHypothesis mayRest _)

end Host.LeadsBy

/-- The step changes the host through calls of allowed requests alone. -/
def HostM.ByCalls (step : HostM σ α) (allowed : Request → Prop) : Prop :=
  ∀ state, Host.LeadsBy allowed state (step.after state)

namespace HostM.ByCalls

variable {allowed : Request → Prop}

theorem pure (value : α) : (Pure.pure value : HostM σ α).ByCalls allowed := fun _ => .refl

theorem throw (failure : Failure) :
    (MonadExcept.throw failure : HostM σ α).ByCalls allowed := fun _ => .refl

theorem get : (MonadState.get : HostM σ σ).ByCalls allowed := fun _ => .refl

theorem ofExcept (result : Except Failure α) :
    (MonadExcept.ofExcept result : HostM σ α).ByCalls allowed := by
  cases result with
  | ok value => exact .pure value
  | error failure => exact .throw failure

theorem bind {first : HostM σ α} {next : α → HostM σ β} (one : first.ByCalls allowed)
    (other : ∀ value, (next value).ByCalls allowed) : (first >>= next).ByCalls allowed := by
  intro state
  have leads := one state
  rw [after_bind]
  unfold HostM.after at leads
  cases run : first.run state with
  | ok value reached => exact .trans (by simpa [run] using leads) (other value reached)
  | error failure reached => simpa [run] using leads

theorem tryCatch {body : HostM σ α} {handler : Failure → HostM σ α}
    (one : body.ByCalls allowed) (other : ∀ failure, (handler failure).ByCalls allowed) :
    (MonadExcept.tryCatch body handler).ByCalls allowed := by
  intro state
  have leads := one state
  rw [after_tryCatch]
  unfold HostM.after at leads
  cases run : body.run state with
  | ok value reached => simpa [run] using leads
  | error failure reached =>
    exact .trans (by simpa [run] using leads) (other failure reached)

theorem forM (step : α → HostM σ PUnit) (each : ∀ value, (step value).ByCalls allowed)
    (values : List α) : (values.forM step).ByCalls allowed := by
  induction values with
  | nil => exact .pure _
  | cons value rest inductionHypothesis => exact .bind (each value) fun _ => inductionHypothesis

theorem of_silently {step : HostM σ α} (byCalls : step.silently.ByCalls allowed) :
    step.ByCalls allowed := by
  intro state
  rw [← after_silently]
  exact byCalls state

theorem call (request : Request) (may : allowed request) :
    (request.make : HostM σ (Option String)).ByCalls allowed := fun _ => .call .refl may

end HostM.ByCalls

end

end MindMap
