import MindMap.Host.Scripted
import MindMap.Proofs.Canvas.Drops
import MindMap.Proofs.Host.Logs

/-!
# What gestures ask for

Which requests a gesture makes is decided before it makes the first, by its kind, the mode and what the
host says of its document and its panels: `Gesture.requests`. All of them are made, in this order,
whatever becomes of each, and the reply tells the failure of the first that failed.

So a gesture that asks for one thing stops when that fails, and one that asks for two does not. Two
things are asked for by a click beside all nodes and by a double click on a text.
-/

namespace MindMap

open CommandLine

namespace Gesture

section

variable {σ : Type} {steps : List (Request × HostM σ Unit)} {state : σ}

theorem after_askAll (steps : List (HostM σ Unit)) (state : σ) :
    (askAll steps state).2 = steps.foldl (fun reached step => step.after reached) state := by
  induction steps generalizing state with
  | nil => rfl
  | cons step rest inductionHypothesis =>
    rw [List.foldl_cons, ← inductionHypothesis, askAll, HostM.after]
    cases step.run state <;> rfl

theorem replyTo_eq (steps : List (HostM σ Unit)) (state : σ) :
    replyTo steps state =
      ((askAll steps state).1.elim .silent .ofFailure, (askAll steps state).2) := by
  unfold replyTo
  obtain ⟨_ | failure, reached⟩ := askAll steps state <;> rfl

/-- Whether it is watched or not, a host that is asked for several things comes to the same. -/
theorem askAll_record (steps : List (Request × HostM σ Unit)) (logged : Logged σ) :
    ∃ calls, calls.map (·.request) = steps.map (·.1) ∧
      (askAll (steps.map (·.2)) logged.state).1 = firstFailure? calls ∧
      askAll (steps.map fun step => Logged.record step.1 step.2) logged =
        (firstFailure? calls,
          ⟨(askAll (steps.map (·.2)) logged.state).2, logged.calls ++ calls⟩) := by
  induction steps generalizing logged with
  | nil => exact ⟨[], rfl, rfl, by simp [askAll, firstFailure?]⟩
  | cons step rest inductionHypothesis =>
    simp only [List.map_cons, askAll, Logged.run_record]
    cases step.2.run logged.state with
    | ok value reached =>
      obtain ⟨calls, made, failed, asked⟩ :=
        inductionHypothesis ⟨reached, logged.calls ++ [⟨step.1, none⟩]⟩
      refine ⟨⟨step.1, none⟩ :: calls, by simp [made], failed, ?_⟩
      simpa [firstFailure?] using asked
    | error failure reached =>
      obtain ⟨calls, made, -, asked⟩ :=
        inductionHypothesis ⟨reached, logged.calls ++ [⟨step.1, some failure⟩]⟩
      refine ⟨⟨step.1, some failure⟩ :: calls, by simp [made], rfl, ?_⟩
      simp only [asked]
      simp [firstFailure?]

end

/-! ### The requests of a gesture -/

variable {σ ε : Type} [Host σ]

/-- What a gesture asks a host for, in order. -/
def requests (registry : Registry ε) (gesture : Gesture) (state : σ) : List Request :=
  match (Host.mode state).strategy, gesture.kind with
  | .insert, .backgroundClick => [.closeContextMenu, .closeLists]
  | .normal, .backgroundClick | .visual, .backgroundClick => [.selectNode none, .closeContextMenu]
  | _, .nodeClick id => [.selectNode (some id)]
  | .normal, .backgroundMenu =>
    if Host.linkListOpen state then [] else [.openContextMenu gesture.x gesture.y none]
  | .normal, .nodeMenu id =>
    if Host.linkListOpen state then [] else [.openContextMenu gesture.x gesture.y (some id)]
  | .normal, .nodeDoubleClick id =>
    if (Host.findNode state id).any (·.isText) then
      [.selectNode (some id), .startEditAtEnd id]
    else []
  | .normal, .dragEnd dragged target placement =>
    if registry.contains moveCommand &&
        (dropAnswer (Host.findNode state) dragged target placement).toOption.isNone then []
    else [.moveNode dragged target placement]
  | _, _ => []

/-- What comes of making requests of a host, for the host itself and for the host with a log. -/
structure Asked (start : σ) (requests : List Request) (plain : Option Reply × σ)
    (watched : Option Reply × Logged σ) : Prop where
  /-- The log makes no difference. -/
  reply : watched.1 = plain.1
  state : watched.2.state = plain.2
  /-- The requests are made one after another, each of what the one before has left. -/
  after : plain.2 = requests.foldl (fun reached request => request.make.after reached) start
  logged : watched.2.calls.map (·.request) = requests
  told : ∀ failure, firstFailure? watched.2.calls = some failure →
    plain.1 = some (.ofFailure failure)

theorem Asked.of_none (answer : Option Reply) (state : σ) :
    Asked state [] (answer, state) (answer, Logged.start state) :=
  ⟨rfl, rfl, rfl, rfl, fun _ failed => nomatch failed⟩

/-- Steps carry requests out one by one. -/
theorem Asked.of_steps (steps : List (Request × HostM σ Unit))
    (carriesOut : ∀ step ∈ steps, step.2.silently = step.1.make) (state : σ) :
    Asked state (steps.map (·.1)) (answered (replyTo (steps.map (·.2)) state))
      (answered (replyTo (steps.map fun step => Logged.record step.1 step.2)
        (Logged.start state))) := by
  obtain ⟨calls, made, failed, asked⟩ := askAll_record steps (Logged.start state)
  have after : (askAll (steps.map (·.2)) state).2 =
      (steps.map (·.1)).foldl (fun reached request => request.make.after reached) state := by
    rw [after_askAll, List.foldl_map, List.foldl_map]
    refine List.foldl_ext _ _ _ fun reached step member => ?_
    rw [← carriesOut step member, HostM.after_silently]
  have plain : replyTo (steps.map (·.2)) state =
      ((firstFailure? calls).elim .silent .ofFailure, (askAll (steps.map (·.2)) state).2) := by
    rw [replyTo_eq]
    exact congrArg (fun failure : Option Failure => (failure.elim _ _, _)) failed
  have watched : replyTo (steps.map fun step => Logged.record step.1 step.2) (Logged.start state) =
      ((firstFailure? calls).elim .silent .ofFailure,
        ⟨(askAll (steps.map (·.2)) state).2, calls⟩) := by
    rw [replyTo_eq, asked]
    rfl
  rw [plain, watched]
  constructor
  case reply => rfl
  case state => rfl
  case after => exact after
  case logged => exact made
  case told =>
    intro failure isFirst
    exact congrArg some (congrArg (·.elim Reply.silent .ofFailure) isFirst)

/-- One step, with more to say than nothing when it succeeds. -/
theorem Asked.of_step (request : Request) {step : HostM σ Unit}
    (carriesOut : step.silently = request.make) (done : Reply) (state : σ) :
    Asked state [request]
      (answered (replyWith done (step.run state)))
      (answered (replyWith done ((Logged.record request step).run (Logged.start state)))) := by
  have after : request.make.after state = step.after state := by
    rw [← carriesOut, HostM.after_silently]
  have sameRun : step.run (Logged.start state).state = step.run state := rfl
  unfold HostM.after at after
  rw [Logged.run_record, sameRun]
  cases run : step.run state with
  | ok value reached =>
    rw [run] at after
    exact ⟨rfl, rfl, after.symm, rfl, fun _ failed => nomatch failed⟩
  | error failure reached =>
    rw [run] at after
    exact ⟨rfl, rfl, after.symm, rfl, fun _ failed => congrArg (some ∘ Reply.ofFailure)
      (Option.some.inj failed)⟩

theorem asked_openMenu (x y : Float) (id : Option String) (state : σ) :
    Asked state (if Host.linkListOpen state then [] else [.openContextMenu x y id])
      (openMenu x y id state) (openMenu x y id (Logged.start state)) := by
  have sameList : Host.linkListOpen (Logged.start state) = Host.linkListOpen state := rfl
  rw [openMenu, openMenu, sameList]
  split
  · exact .of_none none state
  · exact .of_steps [(.openContextMenu x y id, Host.openContextMenu x y id)]
      (by simp [Request.make]) state

theorem asked_beginEdit (id : String) (state : σ) :
    Asked state
      (if (Host.findNode state id).any (·.isText) then
        [.selectNode (some id), .startEditAtEnd id] else [])
      (answered (beginEdit id state)) (answered (beginEdit id (Logged.start state))) := by
  have sameNode : Host.findNode (Logged.start state) id = Host.findNode state id := rfl
  rw [beginEdit, beginEdit, sameNode]
  cases Host.findNode state id with
  | none => exact .of_none _ state
  | some node =>
    rw [Option.any_some]
    dsimp only
    split
    · exact .of_steps [(.selectNode (some id), Host.selectNode (some id)),
        (.startEditAtEnd id, Host.startEditAtEnd id)] (by simp [Request.make]) state
    · exact .of_none _ state

section

variable [TextWidth] [Executor ε] {registry : Registry ε}
  (plain : registry = .empty ∨ registry.HasStock)

include plain

theorem asked_commitDrop (dragged target : String) (placement : Placement) (state : σ) :
    Asked state
      (if registry.contains moveCommand &&
          (dropAnswer (Host.findNode state) dragged target placement).toOption.isNone then []
        else [.moveNode dragged target placement])
      (answered (commitDrop registry dragged target placement state))
      (answered (commitDrop registry dragged target placement (Logged.start state))) := by
  rcases plain with rfl | stock
  · exact .of_steps [(.moveNode dragged target placement,
      Host.moveNode dragged target placement)] (by simp [Request.make]) state
  · have named := contains_moveCommand stock
    have sameNodes : Host.findNode (Logged.start state) = Host.findNode state := rfl
    rw [commitDrop, commitDrop, if_pos named, if_pos named, execute_drop stock, execute_drop stock,
      sameNodes, named, Bool.true_and]
    cases dropAnswer (Host.findNode state) dragged target placement with
    | error refusal => exact .of_none (some refusal) state
    | ok message =>
      exact .of_step (.moveNode dragged target placement) rfl (.say message) state

/-- A gesture makes its requests of any host, whatever the host answers. -/
theorem asked_dispatch (gesture : Gesture) (state : σ) :
    Asked state (gesture.requests registry state) (gesture.dispatch registry state)
      (gesture.dispatch registry (Logged.start state)) := by
  have clicked (id : String) : Asked state [.selectNode (some id)]
      (answered (replyTo [Host.selectNode (some id)] state))
      (answered (replyTo [Host.selectNode (some id)] (Logged.start state))) :=
    .of_steps [(.selectNode (some id), Host.selectNode (some id))]
      (by simp [Request.make]) state
  have clickedBeside : Asked state [.selectNode none, .closeContextMenu]
      (answered (replyTo [Host.selectNode none, Host.closeContextMenu] state))
      (answered (replyTo [Host.selectNode none, Host.closeContextMenu] (Logged.start state))) :=
    .of_steps [(.selectNode none, Host.selectNode none),
      (.closeContextMenu, Host.closeContextMenu)] (by simp [Request.make]) state
  -- A host answers questions with a log as it does without, so both go the same way.
  have sameMode : Host.mode (Logged.start state) = Host.mode state := rfl
  rw [dispatch, dispatch, sameMode, requests]
  cases (Host.mode state).strategy with
  | normal =>
    simp only [takeBy, inNormalMode]
    cases gesture.kind with
    | backgroundClick => exact clickedBeside
    | backgroundMenu => exact asked_openMenu _ _ _ state
    | nodeClick id => exact clicked id
    | nodeDoubleClick id => exact asked_beginEdit id state
    | nodeMenu id => exact asked_openMenu _ _ _ state
    | dragEnd dragged target placement => exact asked_commitDrop plain dragged target placement state
    | press | release | wheel => exact .of_none none state
  | insert =>
    simp only [takeBy, inInsertMode]
    cases gesture.kind with
    | backgroundClick =>
      exact .of_steps [(.closeContextMenu, Host.closeContextMenu),
        (.closeLists, Host.closeLists)] (by simp [Request.make]) state
    | nodeClick id => exact clicked id
    | _ => exact .of_none none state
  | visual =>
    simp only [takeBy, inVisualMode, inNormalMode]
    cases gesture.kind with
    | backgroundClick => exact clickedBeside
    | nodeClick id => exact clicked id
    | _ => exact .of_none none state

end

/-! ### Failures -/

/-- The gestures that ask for two things. -/
def AsksTwice (gesture : Gesture) (state : σ) : Prop :=
  gesture.kind = .backgroundClick ∨
    ∃ id node, gesture.kind = .nodeDoubleClick id ∧ (Host.mode state).strategy = .normal ∧
      Host.findNode state id = some node ∧ node.isText = true

theorem length_requests (registry : Registry ε) (gesture : Gesture) (state : σ) :
    (gesture.AsksTwice state ∧ (gesture.requests registry state).length = 2) ∨
      (¬gesture.AsksTwice state ∧ (gesture.requests registry state).length ≤ 1) := by
  unfold AsksTwice requests
  cases gesture.kind with
  | nodeDoubleClick id =>
    cases (Host.mode state).strategy with
    | normal =>
      cases found : Host.findNode state id with
      | none => simp [found]
      | some node => by_cases isText : node.isText = true <;> simp [found, isText]
    | insert | visual => simp
  | _ => cases (Host.mode state).strategy <;> simp <;> split <;> simp

/-- How a gesture deals with calls that fail, given its reply and the calls it has made in order. -/
structure DealsWithFailure (gesture : Gesture) (state : σ) (reply : Option Reply)
    (calls : List Call) : Prop where
  /-- The reply tells the first failure. -/
  told : ∀ failure, firstFailure? calls = some failure → reply = some (.ofFailure failure)
  /-- No call follows on a failed one, unless it is the second of two that are always made. -/
  stops : ∀ before failed after, calls = before ++ failed :: after →
    failed.failure.isSome = true → after = [] ∨ gesture.AsksTwice state ∧ before = []
  /-- Two calls are made whatever becomes of the first. -/
  goesOn : gesture.AsksTwice state → ∃ first second, calls = [first, second]

/-- Whatever a host answers, a gesture replies with the first failure. If it asks for one thing, then it
stops there; if it asks for two, the second is asked for even so. The log makes no difference. -/
theorem dispatch_deals_with_failure [TextWidth] [Executor ε] {registry : Registry ε}
    (plain : registry = .empty ∨ registry.HasStock) (gesture : Gesture) (state : σ) :
    ∃ reply reached calls, gesture.dispatch registry state = (reply, reached) ∧
      gesture.dispatch registry (Logged.start state) = (reply, ⟨reached, calls⟩) ∧
      gesture.DealsWithFailure state reply calls := by
  have asked := asked_dispatch plain gesture state
  generalize gesture.dispatch registry state = outcome at asked
  generalize gesture.dispatch registry (Logged.start state) = watched at asked
  obtain ⟨sameReply, sameState, -, logged, told⟩ := asked
  obtain ⟨reply, reached⟩ := outcome
  obtain ⟨_, reached, calls⟩ := watched
  obtain rfl := sameReply
  obtain rfl := sameState
  have sameLength := congrArg List.length logged
  rw [List.length_map] at sameLength
  refine ⟨_, _, calls, rfl, rfl, told, ?stops, ?goesOn⟩
  case stops =>
    rintro before failed after rfl -
    rw [List.length_append, List.length_cons] at sameLength
    rcases length_requests registry gesture state with ⟨twice, two⟩ | ⟨-, atMostOne⟩
    · by_cases isLast : after = []
      · exact .inl isLast
      · have positive := List.length_pos_iff.mpr isLast
        exact .inr ⟨twice, List.length_eq_zero_iff.mp (by omega)⟩
    · exact .inl (List.length_eq_zero_iff.mp (by omega))
  case goesOn =>
    intro asksTwice
    rcases length_requests registry gesture state with ⟨-, two⟩ | ⟨notTwice, -⟩
    · exact List.length_eq_two.mp (sameLength.trans two)
    · exact absurd asksTwice notTwice

attribute [local instance] TextWidth.perCharacter

/-- A host that cannot select anything. -/
def stubborn : ScriptedHost :=
  { document := Forest.ofRoots [(Item.plain "leaf" "Leaf").leaf]
    selection := some "leaf"
    provided := []
    providesAll := true
    failing := Table.empty.insert "selectNode" "broken" }

/-- A double click on a text. -/
def doubleClick : Gesture := ⟨0, 0, .nodeDoubleClick "leaf"⟩

/-- A text that cannot be selected is edited all the same. -/
theorem stubborn_deals_with_failure :
    ∃ reply reached calls, doubleClick.dispatch Registry.stock stubborn = (reply, reached) ∧
      doubleClick.dispatch Registry.stock (Logged.start stubborn) = (reply, ⟨reached, calls⟩) ∧
      reply = some (.refused "broken") ∧ calls.length = 2 := by
  obtain ⟨reply, reached, calls, plain, watched, deals⟩ :=
    dispatch_deals_with_failure (.inr Registry.hasStock_stock) doubleClick stubborn
  have failed : firstFailure? (doubleClick.dispatch Registry.stock (Logged.start stubborn)).2.calls =
      some (.failed "broken") := rfl
  rw [watched] at failed
  obtain ⟨first, second, rfl⟩ := deals.goesOn (.inr ⟨"leaf", _, rfl, rfl, rfl, rfl⟩)
  exact ⟨reply, reached, _, plain, watched, deals.told _ failed, rfl⟩

/-- A click beside all nodes has the context menu closed after the selection has failed. -/
theorem menu_closed_after_failure :
    ((⟨0, 0, .backgroundClick⟩ : Gesture).dispatch (.empty : Registry Action)
        (Logged.start stubborn)).2.calls =
        [⟨.selectNode none, some (.failed "broken")⟩, ⟨.closeContextMenu, none⟩] ∧
      ((⟨0, 0, .backgroundClick⟩ : Gesture).dispatch (.empty : Registry Action)
          stubborn).2.requests =
        [.closeContextMenu, .selectNode none] :=
  ⟨rfl, rfl⟩

end Gesture

end MindMap
