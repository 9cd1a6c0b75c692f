import MindMap.Canvas.Gesture
import MindMap.Command.Execute

/-!
# Gestures by mode

What a gesture does depends on the mode of the host, which is read anew for each gesture. Insert mode keeps
the node that is being edited selected; visual mode takes clicks alone; a menu mode has no rules of its own
and goes by those of normal mode. A gesture without effect is ignored, which is not the same as a reply
that says nothing.

Where a gesture asks the host for two things, both are asked for, and the reply tells the first failure.
-/

namespace MindMap

open CommandLine

/-- A way of taking gestures. -/
inductive Strategy where
  | normal
  | insert
  | visual
deriving DecidableEq, Repr, Inhabited

/-- The name of a strategy, which is that of its mode. -/
def Strategy.name : Strategy → String
  | .normal => "normal"
  | .insert => "insert"
  | .visual => "visual"

/-- The strategy of a mode. -/
def Mode.strategy : Mode → Strategy
  | .insert => .insert
  | .visual => .visual
  | .normal | .menu => .normal

/-- The strategy of a mode's name; names of no mode mean normal mode. -/
def Strategy.ofName (name : String) : Strategy :=
  match Mode.ofName? name with
  | some mode => mode.strategy
  | none => .normal

namespace Gesture

variable {σ ε : Type} [Host σ] [Executor ε]

/-- Ask a host for several things one after another, whatever becomes of each, and tell the first
failure. -/
def askAll : List (HostM σ Unit) → σ → Option Failure × σ
  | [], state => (none, state)
  | step :: rest, state =>
    match step.run state with
    | .ok _ reached => askAll rest reached
    | .error failure reached => (some failure, (askAll rest reached).2)

/-- The reply to a gesture that asks a host for several things. -/
def replyTo (steps : List (HostM σ Unit)) (state : σ) : Reply × σ :=
  match askAll steps state with
  | (none, reached) => (.silent, reached)
  | (some failure, reached) => (.ofFailure failure, reached)

/-- What comes of a gesture that is not ignored. -/
def answered (outcome : Reply × σ) : Option Reply × σ := (some outcome.1, outcome.2)

/-- Open the context menu, unless the list of links is open. -/
def openMenu (x y : Float) (id : Option String) (state : σ) : Option Reply × σ :=
  if Host.linkListOpen state then (none, state)
  else answered (replyTo [Host.openContextMenu x y id] state)

/-- Select a node and edit its text. A table is left alone. -/
def beginEdit (id : String) (state : σ) : Reply × σ :=
  match Host.findNode state id with
  | none => (.ofFailure (.nodeNotFound id), state)
  | some node =>
    if node.isText then replyTo [Host.selectNode (some id), Host.startEditAtEnd id] state
    else (.silent, state)

/-- The command that moves nodes. -/
def moveCommand : String := "move"

/-- The invocation that moves a node to where it was dropped. -/
def dropInvocation (dragged target : String) (placement : Placement) : Invocation :=
  .ofArguments moveCommand <| Arguments.empty
    |>.insert "nodeId" (.text dragged)
    |>.insert "target" (.text target)
    |>.insert "position" (.text placement.name)

/-- Move a node to where it was dropped: by the command, if there is one, and else by the host. -/
def commitDrop (registry : Registry ε) (dragged target : String) (placement : Placement)
    (state : σ) : Reply × σ :=
  if registry.contains moveCommand then
    registry.execute (dropInvocation dragged target placement) state
  else replyTo [Host.moveNode dragged target placement] state

/-- Take a gesture in normal mode. -/
def inNormalMode (registry : Registry ε) (gesture : Gesture) (state : σ) : Option Reply × σ :=
  match gesture.kind with
  | .backgroundClick =>
    answered (replyTo [Host.selectNode none, Host.closeContextMenu] state)
  | .backgroundMenu => openMenu gesture.x gesture.y none state
  | .nodeMenu id => openMenu gesture.x gesture.y (some id) state
  | .nodeClick id => answered (replyTo [Host.selectNode (some id)] state)
  | .nodeDoubleClick id => answered (beginEdit id state)
  | .dragEnd dragged target placement =>
    answered (commitDrop registry dragged target placement state)
  | .press | .release | .wheel .. => (none, state)

/-- Take a gesture in insert mode. -/
def inInsertMode (gesture : Gesture) (state : σ) : Option Reply × σ :=
  match gesture.kind with
  | .backgroundClick => answered (replyTo [Host.closeContextMenu, Host.closeLists] state)
  | .nodeClick id => answered (replyTo [Host.selectNode (some id)] state)
  | _ => (none, state)

/-- Take a gesture in visual mode. -/
def inVisualMode (registry : Registry ε) (gesture : Gesture) (state : σ) : Option Reply × σ :=
  match gesture.kind with
  | .backgroundClick | .nodeClick _ => inNormalMode registry gesture state
  | _ => (none, state)

/-- Take a gesture by a strategy. -/
def takeBy (strategy : Strategy) (registry : Registry ε) (gesture : Gesture) (state : σ) :
    Option Reply × σ :=
  match strategy with
  | .normal => inNormalMode registry gesture state
  | .insert => inInsertMode gesture state
  | .visual => inVisualMode registry gesture state

/-- Take a gesture in the mode that the host is in. There is no reply to a gesture that is ignored. -/
def dispatch (registry : Registry ε) (gesture : Gesture) (state : σ) : Option Reply × σ :=
  takeBy (Host.mode state).strategy registry gesture state

end Gesture

end MindMap
