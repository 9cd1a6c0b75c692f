import MindMap.Canvas.Dispatch

/-!
# Commands and gestures act by calls

An executor makes the requests that it may and no others, so a command line makes those of the command that
it names, and a refused one makes no call at all. A gesture makes requests of its own or has a command
carried out, never both: `Gesture.Effect`.
-/

namespace MindMap

open CommandLine HostM

variable {σ ε : Type} [Host σ] [Executor ε] {allowed : Request → Prop}

/-! ### Command lines -/

namespace Registry

/-- Executing an invocation makes no other requests than the action of the command it names can. -/
theorem execute_leadsBy {registry : Registry ε} {invocation : Invocation} {command : Command ε}
    (named : registry.get? invocation.name = some command) (state : σ) :
    Host.LeadsBy (Executor.MayMake command.executor) state (registry.execute invocation state).2 := by
  unfold execute
  rw [named]
  dsimp only
  split
  · exact .refl
  · next checked _ =>
    have leads := (HostM.ByCalls.bind .get fun now =>
      Executor.byCalls command.executor (.now registry now) checked.args) state
    unfold runCommand
    unfold after at leads
    split <;> next run => simpa only [run] using leads

theorem execute_unnamed {registry : Registry ε} {invocation : Invocation}
    (unnamed : registry.get? invocation.name = none) (state : σ) :
    registry.execute invocation state =
      (.refused (registry.unknownCommand invocation.name), state) := by
  unfold execute
  rw [unnamed]

/-- Executing an invocation changes a host through calls alone. -/
theorem execute_leads (registry : Registry ε) (invocation : Invocation) (state : σ) :
    Host.Leads state (registry.execute invocation state).2 := by
  cases named : registry.get? invocation.name with
  | none =>
    rw [execute_unnamed named]
    exact .refl
  | some command => exact (execute_leadsBy named state).leads

/-- Executing a line changes a host through calls alone. -/
theorem executeLine_leads (registry : Registry ε) (line : String) (state : σ) :
    Host.Leads state (registry.executeLine line state).2 := by
  unfold executeLine
  split
  · exact .refl
  · next invocation _ => exact registry.execute_leads invocation state

end Registry

/-! ### Gestures -/

namespace Gesture

theorem askAll_leads {steps : List (HostM σ Unit)}
    (byCalls : ∀ step ∈ steps, step.ByCalls allowed) (state : σ) :
    Host.LeadsBy allowed state (askAll steps state).2 := by
  induction steps generalizing state with
  | nil => exact .refl
  | cons step rest inductionHypothesis =>
    have first := byCalls step (.head _) state
    have later := inductionHypothesis fun step member => byCalls step (.tail _ member)
    unfold askAll
    unfold after at first
    split <;> next run =>
      rw [run] at first
      exact first.trans (later _)

theorem replyTo_leads {steps : List (HostM σ Unit)}
    (byCalls : ∀ step ∈ steps, step.ByCalls allowed) (state : σ) :
    Host.LeadsBy allowed state (replyTo steps state).2 := by
  have leads := askAll_leads byCalls state
  unfold replyTo
  split <;> next asked => simpa only [asked] using leads

/-- The requests that gestures make of themselves. -/
def Asks : Request → Prop
  | .selectNode _ | .startEditAtEnd _ | .moveNode .. | .openContextMenu .. | .closeContextMenu
  | .closeLists => True
  | _ => False

/-- The requests that a gesture can make: its own, or those of the command that moves nodes. -/
def MayMake (registry : Registry ε) (request : Request) : Prop :=
  Asks request ∨
    ∃ command, registry.get? moveCommand = some command ∧ Executor.MayMake command.executor request

/-- How a gesture changes a host: by its own requests alone, or by those of the command that moves
nodes alone. -/
inductive Effect (registry : Registry ε) (state after : σ) : Prop where
  | asked (leads : Host.LeadsBy Asks state after)
  | moved (command : Command ε) (named : registry.get? moveCommand = some command)
      (leads : Host.LeadsBy (Executor.MayMake command.executor) state after)

theorem Effect.refl (registry : Registry ε) (state : σ) : Effect registry state state := .asked .refl

theorem Effect.of_asks {registry : Registry ε} {steps : List (HostM σ Unit)}
    (asks : ∀ step ∈ steps, step.ByCalls Asks) (state : σ) :
    Effect registry state (replyTo steps state).2 :=
  .asked (replyTo_leads asks state)

theorem Effect.leadsBy {registry : Registry ε} {state after : σ}
    (effect : Effect registry state after) : Host.LeadsBy (MayMake registry) state after := by
  cases effect with
  | asked leads => exact leads.mono fun _ => .inl
  | moved command named leads => exact leads.mono fun _ may => .inr ⟨command, named, may⟩

theorem openMenu_effect (registry : Registry ε) (x y : Float) (id : Option String) (state : σ) :
    Effect registry state (openMenu x y id state).2 := by
  unfold openMenu
  split
  · exact .refl registry state
  · refine .of_asks ?_ state
    simpa using .of_silently (.call (.openContextMenu x y id) trivial)

theorem beginEdit_effect (registry : Registry ε) (id : String) (state : σ) :
    Effect registry state (beginEdit id state).2 := by
  unfold beginEdit
  split
  · exact .refl registry state
  · split
    · refine .of_asks ?_ state
      simpa using ⟨.of_silently (.call (.selectNode (some id)) trivial),
        .of_silently (.call (.startEditAtEnd id) trivial)⟩
    · exact .refl registry state

theorem commitDrop_effect (registry : Registry ε) (dragged target : String) (placement : Placement)
    (state : σ) :
    Effect registry state (commitDrop registry dragged target placement state).2 := by
  unfold commitDrop
  split
  · have isMove : (dropInvocation dragged target placement).name = moveCommand := rfl
    cases named : registry.get? moveCommand with
    | none =>
      rw [Registry.execute_unnamed (isMove ▸ named)]
      exact .refl registry state
    | some command =>
      exact .moved command named (Registry.execute_leadsBy (isMove ▸ named) state)
  · refine .of_asks ?_ state
    simpa using .of_silently (.call (.moveNode dragged target placement) trivial)

theorem inNormalMode_effect (registry : Registry ε) (gesture : Gesture) (state : σ) :
    Effect registry state (inNormalMode registry gesture state).2 := by
  unfold inNormalMode
  split
  · refine .of_asks ?_ state
    simpa using ⟨.of_silently (.call (.selectNode none) trivial),
      .of_silently (.call .closeContextMenu trivial)⟩
  · exact openMenu_effect registry gesture.x gesture.y none state
  · next id _ => exact openMenu_effect registry gesture.x gesture.y (some id) state
  · next id _ =>
    refine .of_asks ?_ state
    simpa using .of_silently (.call (.selectNode (some id)) trivial)
  · next id _ => exact beginEdit_effect registry id state
  · next dragged target placement _ =>
    exact commitDrop_effect registry dragged target placement state
  all_goals exact .refl registry state

theorem inInsertMode_effect (registry : Registry ε) (gesture : Gesture) (state : σ) :
    Effect registry state (inInsertMode gesture state).2 := by
  unfold inInsertMode
  split
  · refine .of_asks ?_ state
    simpa using ⟨.of_silently (.call .closeContextMenu trivial),
      .of_silently (.call .closeLists trivial)⟩
  · next id _ =>
    refine .of_asks ?_ state
    simpa using .of_silently (.call (.selectNode (some id)) trivial)
  · exact .refl registry state

/-- In every mode, a gesture has one of these effects. -/
theorem dispatch_effect (registry : Registry ε) (gesture : Gesture) (state : σ) :
    Effect registry state (dispatch registry gesture state).2 := by
  unfold dispatch takeBy
  split
  · exact inNormalMode_effect registry gesture state
  · exact inInsertMode_effect registry gesture state
  · unfold inVisualMode
    split
    · exact inNormalMode_effect registry gesture state
    · exact inNormalMode_effect registry gesture state
    · exact .refl registry state

/-- A gesture makes no other requests than gestures can. -/
theorem dispatch_leadsBy (registry : Registry ε) (gesture : Gesture) (state : σ) :
    Host.LeadsBy (MayMake registry) state (dispatch registry gesture state).2 :=
  (gesture.dispatch_effect registry state).leadsBy

/-- A gesture changes a host through calls alone. -/
theorem dispatch_leads (registry : Registry ε) (gesture : Gesture) (state : σ) :
    Host.Leads state (dispatch registry gesture state).2 :=
  (gesture.dispatch_leadsBy registry state).leads

end Gesture

end MindMap
