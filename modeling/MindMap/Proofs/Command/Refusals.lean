import MindMap.Command.Stock
import MindMap.Proofs.Navigation
import MindMap.Proofs.Session.Atomicity

/-!
# Refused commands have no effect

A command that is refused has left a reachable session as it was. An action looks first, which
changes nothing, and then makes one call, which has no effect if it fails; nothing is refused after
that. Only a motion makes several calls: it expands the collapsed nodes on its way and then selects
its target. All of them are nodes of the document, which expanding keeps, so once a motion has begun
none of its calls fails.
-/

namespace MindMap

open CommandLine

namespace Session

variable {session : Session} {α ε : Type}

/-- Unless the step replies that it was done, it leaves the session as it was. -/
def AllOrNothing (step : HostM Session Reply) (session : Session) : Prop :=
  match step.run session with
  | .ok reply reached => reply.isDone = false → reached = session
  | .error _ reached => reached = session

/-- The step leaves the session as it was, whether it fails or not. -/
def Looks (step : HostM Session α) (session : Session) : Prop := step.after session = session

namespace Looks

theorem pure (value : α) : Looks (Pure.pure value) session := rfl

theorem throw (failure : Failure) :
    Looks (MonadExcept.throw failure : HostM Session α) session := rfl

theorem get : Looks MonadState.get session := rfl

theorem ofExcept (result : Except Failure α) :
    Looks (MonadExcept.ofExcept result) session := by
  cases result <;> rfl

theorem bind {β : Type} {first : HostM Session α} {next : α → HostM Session β}
    (one : Looks first session) (other : ∀ value, Looks (next value) session) :
    Looks (first >>= next) session := by
  unfold Looks at one ⊢
  rw [HostM.after_bind]
  unfold HostM.after at one
  cases run : first.run session with
  | ok value reached =>
    obtain rfl : reached = session := by simpa [run] using one
    exact other value
  | error failure reached => simpa [run] using one

theorem node (id : String) : Looks (Host.node id) session := by
  unfold Host.node
  refine .bind .get fun state => ?_
  split
  · exact .pure _
  · exact .throw _

theorem target (context : Context ε) (args : Arguments) (key : String) :
    Looks (context.target args key) session :=
  .bind (.ofExcept _) fun id => .bind (.node id) fun _ => .bind .get fun _ => .pure _

end Looks

namespace AllOrNothing

theorem of_looks {step : HostM Session Reply} (looks : Looks step session) :
    AllOrNothing step session := by
  unfold Looks HostM.after at looks
  unfold AllOrNothing
  cases run : step.run session with
  | ok reply reached => exact fun _ => by simpa [run] using looks
  | error failure reached => simpa [run] using looks

/-- Look first and go on from the same session. -/
theorem look {first : HostM Session α} {next : α → HostM Session Reply}
    (looks : Looks first session)
    (other : ∀ value, first.run session = .ok value session → AllOrNothing (next value) session) :
    AllOrNothing (first >>= next) session := by
  unfold Looks HostM.after at looks
  unfold AllOrNothing
  rw [EStateM.run_bind]
  cases run : first.run session with
  | ok value reached =>
    obtain rfl : reached = session := by simpa [run] using looks
    exact other value run
  | error failure reached => simpa [run] using looks

/-- Make a call that has no effect if it fails, and be done if it succeeds. -/
theorem call {first : HostM Session α} {next : α → HostM Session Reply}
    (atomic : Atomic first session)
    (done : ∀ value reached, first.run session = .ok value reached →
      ∃ message, (next value).run reached = .ok (.done message) reached) :
    AllOrNothing (first >>= next) session := by
  unfold AllOrNothing
  rw [EStateM.run_bind]
  cases run : first.run session with
  | ok value reached =>
    obtain ⟨message, replied⟩ := done value reached run
    dsimp only
    rw [replied]
    intro notDone
    cases notDone
  | error failure reached => exact atomic failure reached run

theorem of_done {step : HostM Session Reply} {message : Option String} {reached : Session}
    (run : step.run session = .ok (.done message) reached) : AllOrNothing step session := by
  unfold AllOrNothing
  rw [run]
  intro notDone
  cases notDone

theorem of_throw (failure : Failure) : AllOrNothing (MonadExcept.throw failure) session :=
  of_looks (.throw failure)

theorem of_pure (reply : Reply) : AllOrNothing (pure reply) session := of_looks (.pure reply)

end AllOrNothing

theorem Atomic.tryCatch {body : HostM Session α} {handler : Failure → HostM Session α}
    (one : Atomic body session) (other : ∀ failure, Atomic (handler failure) session) :
    Atomic (MonadExcept.tryCatch body handler) session := by
  intro failure reached failed
  rw [HostM.run_tryCatch] at failed
  cases run : body.run session with
  | ok value after => simp [run] at failed
  | error first after =>
    obtain rfl := one first after run
    rw [run] at failed
    exact other first failure reached failed

theorem Atomic.throw (failure : Failure) :
    Atomic (MonadExcept.throw failure : HostM Session α) session := by
  rintro _ _ ⟨⟩
  rfl

/-! ### Expanding on the way -/

theorem run_expand_of_mem {id : String} (present : id ∈ session.document.ids) :
    ∃ after, (Context.expand id).run session = .ok () after ∧
      after.document.ids = session.document.ids := by
  obtain ⟨node, found⟩ := Forest.exists_find?_of_mem_ids present
  obtain ⟨document, changed⟩ :=
    Forest.exists_update?_of_mem_ids present (.setCollapsed !node.collapsed)
  have run := run_toggleCollapse id session
  rw [found] at run
  dsimp only at run
  rw [changed] at run
  have expanded : ∃ after, (toggleCollapse id).run session = .ok () after ∧
      after.document = document := by
    dsimp only at run
    split at run
    · exact ⟨_, run, document_setSelection _ _⟩
    · exact ⟨_, run, rfl⟩
  obtain ⟨after, toggled, sameDocument⟩ := expanded
  refine ⟨after, ?_, ?_⟩
  · have toggledByHost : (Host.toggleCollapse id : HostM Session Unit).run session = .ok () after :=
      toggled
    unfold Context.expand
    rw [HostM.run_tryCatch, toggledByHost]
  · rw [sameDocument, Forest.ids_of_update? changed]

/-- Nodes of the document can be expanded one after another: the ids stay. -/
theorem run_forM_expand {ids : List String} (present : ∀ id ∈ ids, id ∈ session.document.ids) :
    ∃ after, (ids.forM Context.expand).run session = .ok () after ∧
      after.document.ids = session.document.ids := by
  induction ids generalizing session with
  | nil => exact ⟨session, rfl, rfl⟩
  | cons id rest inductionHypothesis =>
    obtain ⟨middle, expanded, sameIds⟩ := run_expand_of_mem (present id List.mem_cons_self)
    have restPresent : ∀ other ∈ rest, other ∈ middle.document.ids := by
      intro other member
      rw [sameIds]
      exact present other (List.mem_cons_of_mem _ member)
    obtain ⟨after, others, sameIdsAgain⟩ := inductionHypothesis restPresent
    refine ⟨after, ?_, sameIdsAgain.trans sameIds⟩
    change (Context.expand id >>= fun _ => rest.forM Context.expand).run session = _
    rw [EStateM.run_bind, expanded]
    exact others

theorem run_selectNode_of_mem {id : String} (present : id ∈ session.document.ids) :
    (selectNode (some id)).run session = .ok () (session.setSelection (some id)) := by
  obtain ⟨node, found⟩ := Forest.exists_find?_of_mem_ids present
  rw [run_selectNode]
  dsimp only
  rw [found]

/-! ### Actions -/

theorem allOrNothing_go (consistent : session.Consistent) (context : Context ε) (args : Arguments)
    (direction : Direction) : AllOrNothing (context.go args direction) session := by
  unfold Context.go
  refine .look (.ofExcept _) fun count _ => ?_
  split
  · exact .call (settles_navigateToDirection consistent direction).atomic fun _ _ _ => ⟨_, rfl⟩
  · refine .look (.node _) fun node _ => .look .get fun state read => ?_
    cases read
    split
    · exact .of_pure _
    · next motion found =>
      have holds := Forest.holds_of_navigate? found
      obtain ⟨middle, expanded, sameIds⟩ := run_forM_expand holds.expand
      -- Expanding keeps the ids, so the target is still there to be selected.
      have selected : (Host.selectNode (some motion.target) : HostM Session Unit).run middle =
          .ok () (middle.setSelection (some motion.target)) :=
        run_selectNode_of_mem (sameIds ▸ holds.target)
      have done : (do
          motion.expand.forM Context.expand
          Host.selectNode (some motion.target)
          return Reply.silent : HostM Session Reply).run session =
          .ok (.done none) (middle.setSelection (some motion.target)) := by
        rw [EStateM.run_bind, expanded]
        dsimp only
        rw [EStateM.run_bind, selected]
        rfl
      exact .of_done done

theorem allOrNothing_select (consistent : session.Consistent) (context : Context ε)
    (args : Arguments) : AllOrNothing (context.select args) session :=
  .look (.target context args "nodeId") fun target _ =>
    .call (settles_selectNode consistent (some target.id)).atomic fun _ _ _ => ⟨_, rfl⟩

theorem allOrNothing_center (consistent : session.Consistent) (context : Context ε)
    (args : Arguments) : AllOrNothing (context.center args) session :=
  .look (.target context args "nodeId") fun target _ =>
    .call (settles_centerOnNode consistent target.id).atomic fun _ _ _ => ⟨_, rfl⟩

theorem allOrNothing_delete (consistent : session.Consistent) (context : Context ε)
    (args : Arguments) : AllOrNothing (context.delete args) session := by
  unfold Context.delete
  refine .look (.target context args "nodeId") fun target _ => ?_
  split
  · exact .of_pure _
  · split
    · exact .of_pure _
    · exact .call (settles_deleteNode consistent target.id).atomic fun _ _ _ => ⟨_, rfl⟩

theorem allOrNothing_toggle (consistent : session.Consistent) (context : Context ε)
    (args : Arguments) : AllOrNothing (context.toggle args) session := by
  unfold Context.toggle
  refine .look (.target context args "nodeId") fun target _ => ?_
  split
  · exact .of_pure _
  · refine .call (.tryCatch (settles_toggleCollapse consistent target.id).atomic fun failure => ?_)
      fun _ _ _ => ⟨_, rfl⟩
    split
    · exact (settles_updateNode consistent target.id _).atomic
    · exact .throw _

/-- An added node has an id to tell, so an addition that succeeds is done. -/
theorem Adds.allOrNothing {step : HostM Session (Option String)} {anchor : String}
    {startEditing : Bool} (adds : Adds step some anchor startEditing session)
    (consistent : session.Consistent) {next : Option String → HostM Session Reply}
    (done : ∀ id reached, ∃ message, (next (some id)).run reached = .ok (.done message) reached) :
    AllOrNothing (step >>= next) session := by
  refine .call (adds.settles consistent).atomic fun value reached run => ?_
  rcases adds with ⟨node, nextId, larger, _, _, added⟩ | ⟨_, missing⟩
  · rw [added] at run
    cases run
    exact done node.id _
  · rw [missing] at run
    cases run

theorem allOrNothing_add (consistent : session.Consistent) (context : Context ε) (args : Arguments)
    (place : NewNodePlace) : AllOrNothing (context.add args place) session := by
  unfold Context.add
  refine .look (.target context args "nodeId") fun anchor _ => ?_
  cases place with
  | child =>
    exact (adds_addChildNode anchor.id _ _ session).allOrNothing consistent fun _ _ => ⟨_, rfl⟩
  | sibling =>
    exact (adds_addSiblingNode anchor.id _ _ session).allOrNothing consistent fun _ _ => ⟨_, rfl⟩

theorem allOrNothing_edit (consistent : session.Consistent) (context : Context ε) (args : Arguments)
    (cursor : CursorPlacement) : AllOrNothing (context.edit args cursor) session := by
  unfold Context.edit
  refine .look (.target context args "nodeId") fun target _ => ?_
  cases cursor with
  | atStart =>
    exact .call (settles_beginEdit consistent target.id .atStart).atomic fun _ _ _ => ⟨_, rfl⟩
  | atEnd =>
    exact .call (settles_beginEdit consistent target.id .atEnd).atomic fun _ _ _ => ⟨_, rfl⟩

theorem allOrNothing_rename (consistent : session.Consistent) (context : Context ε)
    (args : Arguments) : AllOrNothing (context.rename args) session :=
  .look (.ofExcept _) fun text _ => .look (.target context args "nodeId") fun target _ =>
    .call (settles_updateNode consistent target.id (.setText text)).atomic fun _ _ _ => ⟨_, rfl⟩

theorem allOrNothing_annotate (consistent : session.Consistent) (context : Context ε)
    (args : Arguments) : AllOrNothing (context.annotate args) session :=
  .look (.ofExcept _) fun _ _ => .look (.target context args "nodeId") fun target _ =>
    .call (settles_updateNode consistent target.id (.setNote _)).atomic fun _ _ _ => ⟨_, rfl⟩

theorem allOrNothing_relocate (consistent : session.Consistent) (context : Context ε)
    (args : Arguments) : AllOrNothing (context.relocate args) session := by
  unfold Context.relocate
  refine .look (.target context args "nodeId") fun node _ => ?_
  split
  · next targetId _ =>
    refine .look (.node targetId) fun targetNode _ => ?_
    dsimp only
    split
    · next placement _ =>
      refine .look (.pure placement) fun placement _ => ?_
      split
      · exact .of_pure _
      · exact .call (settles_moveNode consistent node.id targetId placement).atomic
          fun _ _ _ => ⟨_, rfl⟩
    · exact .of_throw _
  · exact .of_throw _

theorem allOrNothing_copy (consistent : session.Consistent) (context : Context ε) (args : Arguments) :
    AllOrNothing (context.copy args) session :=
  .look (.target context args "nodeId") fun target _ =>
    .call (settles_copyNode consistent target.id).atomic fun _ _ _ => ⟨_, rfl⟩

theorem allOrNothing_paste (consistent : session.Consistent) (context : Context ε)
    (args : Arguments) : AllOrNothing (context.paste args) session :=
  .look (.target context args "parentId") fun parent _ =>
    .call (settles_pasteNode consistent parent.id).atomic fun _ _ _ => ⟨_, rfl⟩

theorem allOrNothing_run [TextWidth] (consistent : session.Consistent) (context : Context ε)
    (args : Arguments) (action : Action) : AllOrNothing (action.run context args) session := by
  cases action with
  | go direction => exact allOrNothing_go consistent context args direction
  | select => exact allOrNothing_select consistent context args
  | center => exact allOrNothing_center consistent context args
  | delete => exact allOrNothing_delete consistent context args
  | toggle => exact allOrNothing_toggle consistent context args
  | add place => exact allOrNothing_add consistent context args place
  | edit cursor => exact allOrNothing_edit consistent context args cursor
  | rename => exact allOrNothing_rename consistent context args
  | annotate => exact allOrNothing_annotate consistent context args
  | relocate => exact allOrNothing_relocate consistent context args
  | copy => exact allOrNothing_copy consistent context args
  | paste => exact allOrNothing_paste consistent context args
  | undo => exact .call (settles_undo consistent).atomic fun _ _ _ => ⟨_, rfl⟩
  | redo => exact .call (settles_redo consistent).atomic fun _ _ _ => ⟨_, rfl⟩
  | help => exact .of_pure _
  | palette => exact .of_pure _

/-! ### Command lines -/

section

variable [TextWidth]

theorem Consistent.of_refused_execute (consistent : session.Consistent)
    {registry : Registry Action} {invocation : Invocation}
    (refused : (registry.execute invocation session).1.isDone = false) :
    (registry.execute invocation session).2 = session := by
  unfold Registry.execute at refused ⊢
  split at refused
  · rfl
  · next command _ =>
    split at refused
    · rfl
    · next checked _ =>
      have outcome : AllOrNothing (registry.runCommand command checked.args) session :=
        .look .get fun state _ => allOrNothing_run consistent (.now registry state) _ command.executor
      unfold AllOrNothing at outcome
      split at refused
      · next reply reached run =>
        rw [run] at outcome
        exact outcome refused
      · next failure reached run =>
        rw [run] at outcome
        exact outcome

/-- After any run of operations, a stock command that is refused has no effect, be it given as a line
or as an invocation, and whatever the registry holds of stock commands. -/
theorem Reachable.refused_command_has_no_effect (reachable : session.Reachable)
    (registry : Registry Action) :
    (∀ line, (registry.executeLine line session).1.isDone = false →
      (registry.executeLine line session).2 = session) ∧
    ∀ invocation, (registry.execute invocation session).1.isDone = false →
      (registry.execute invocation session).2 = session := by
  have consistent := reachable.consistent
  refine ⟨fun line refused => ?_, fun invocation => consistent.of_refused_execute⟩
  unfold Registry.executeLine at refused ⊢
  split at refused
  · rfl
  · exact consistent.of_refused_execute refused

end

attribute [local instance] TextWidth.perCharacter

theorem refused_deletion_of_trunk :
    (Registry.stock.executeLine "delete trunk" sprouting).1.isDone = false ∧
      (Registry.stock.executeLine "delete trunk" sprouting).2 = sprouting :=
  ⟨rfl, (reachable_sprouting.refused_command_has_no_effect Registry.stock).1 "delete trunk" rfl⟩

end Session

end MindMap
