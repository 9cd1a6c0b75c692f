import MindMap.Command.Run
import MindMap.Host.Calls

/-!
# Executors

An executor is what a command does: handed a host, a context and arguments, it makes requests of the host
and ends in a reply or in a failure. `Executor ε` says that the values of type `ε` are executors. Command
lines and gestures are the same for every `ε`; a program that has nothing but the stock commands takes
`Action`, and one with commands of its own a larger type.

An executor is run on any host, and changes it by calls alone. Which requests it can come to is
`Executor.MayMake`. Opening and closing the context menu are not among them: these two operations are for
gestures, and the host that a command is handed has the others only. For the stock commands,
`Action.byCalls_run` goes through the actions one by one.
-/

namespace MindMap

open CommandLine HostM

/-- The requests that an action can make of a host. -/
def Action.MayMake : Action → Request → Prop
  | .go _, .navigateToDirection _ | .go _, .toggleCollapse _ | .go _, .updateNode ..
  | .go _, .selectNode _
  | .select, .selectNode _
  | .center, .centerOnNode _
  | .delete, .deleteNode _
  | .toggle, .toggleCollapse _ | .toggle, .updateNode ..
  | .add .child, .addChildNode .. | .add .sibling, .addSiblingNode ..
  | .edit .atStart, .startEditAtStart _ | .edit .atEnd, .startEditAtEnd _
  | .rename, .updateNode .. | .annotate, .updateNode ..
  | .relocate, .moveNode ..
  | .copy, .copyNode _ | .paste, .pasteNode _
  | .undo, .undo | .redo, .redo => True
  | _, _ => False

variable {σ ε : Type} [Host σ] {allowed : Request → Prop}

theorem Host.run_node (id : String) (state : σ) :
    (Host.node id).run state =
      match Host.findNode state id with
      | some node => .ok node state
      | none => .error (.nodeNotFound id) state := by
  simp only [Host.node, EStateM.run_bind, EStateM.run_get]
  cases Host.findNode state id <;> rfl

theorem Host.byCalls_node (id : String) : (Host.node id : HostM σ Node).ByCalls allowed := by
  unfold Host.node
  refine .bind .get fun state => ?_
  split
  · exact .pure _
  · exact .throw _

namespace Context

/-- The target of an action is the node that its arguments resolve to. -/
theorem run_target (context : Context ε) (args : Arguments) (key : String) (state : σ) :
    (context.target args key).run state =
      match context.resolve args key with
      | .error failure => .error failure state
      | .ok id =>
        match Host.findNode state id with
        | none => .error (.nodeNotFound id) state
        | some node =>
          .ok ⟨id, node.text, node.children.roots.length, node.collapsed,
            (Host.document state).hasRoot id⟩ state := by
  unfold target
  cases context.resolve args key with
  | error failure => rfl
  | ok id =>
    change (Host.node id >>= fun node => _ : HostM σ Target).run state = _
    rw [EStateM.run_bind, Host.run_node]
    dsimp only
    cases Host.findNode state id <;> rfl

theorem byCalls_target (context : Context ε) (args : Arguments) (key : String) :
    (context.target args key : HostM σ Target).ByCalls allowed :=
  .bind (.ofExcept _) fun id => .bind (Host.byCalls_node id) fun _ => .bind .get fun _ => .pure _

theorem byCalls_expand (direction : Direction) (id : String) :
    (expand id : HostM σ Unit).ByCalls (Action.go direction).MayMake := by
  unfold expand
  refine .tryCatch (.of_silently (.call (.toggleCollapse id) trivial)) fun failure => ?_
  split
  · exact .of_silently (.call (.updateNode id (.setCollapsed false)) trivial)
  · exact .throw _

theorem byCalls_go (context : Context ε) (args : Arguments) (direction : Direction) :
    (context.go args direction : HostM σ Reply).ByCalls (Action.go direction).MayMake := by
  unfold go
  refine .bind (.ofExcept _) fun count => ?_
  split
  · exact .bind (.of_silently (.call (.navigateToDirection direction) trivial)) fun _ => .pure _
  · refine .bind (Host.byCalls_node _) fun node => .bind .get fun state => ?_
    split
    · exact .pure _
    · next motion _ =>
      exact .bind (.forM expand (byCalls_expand direction) motion.expand) fun _ =>
        .bind (.of_silently (.call (.selectNode (some motion.target)) trivial)) fun _ => .pure _

theorem byCalls_select (context : Context ε) (args : Arguments) :
    (context.select args : HostM σ Reply).ByCalls Action.select.MayMake :=
  .bind (byCalls_target context args "nodeId") fun target =>
    .bind (.of_silently (.call (.selectNode (some target.id)) trivial)) fun _ => .pure _

theorem byCalls_center (context : Context ε) (args : Arguments) :
    (context.center args : HostM σ Reply).ByCalls Action.center.MayMake :=
  .bind (byCalls_target context args "nodeId") fun target =>
    .bind (.of_silently (.call (.centerOnNode target.id) trivial)) fun _ => .pure _

theorem byCalls_delete (context : Context ε) (args : Arguments) :
    (context.delete args : HostM σ Reply).ByCalls Action.delete.MayMake := by
  unfold delete
  refine .bind (byCalls_target context args "nodeId") fun target => ?_
  split
  · exact .pure _
  · split
    · exact .pure _
    · exact .bind (.of_silently (.call (.deleteNode target.id) trivial)) fun _ => .pure _

theorem byCalls_toggle (context : Context ε) (args : Arguments) :
    (context.toggle args : HostM σ Reply).ByCalls Action.toggle.MayMake := by
  unfold toggle
  refine .bind (byCalls_target context args "nodeId") fun target => ?_
  split
  · exact .pure _
  · have toggled : (Host.toggleCollapse target.id : HostM σ Unit).ByCalls Action.toggle.MayMake :=
      .of_silently (.call (.toggleCollapse target.id) trivial)
    refine .bind (.tryCatch toggled fun failure => ?_) fun _ => .pure _
    split
    · exact .of_silently (.call (.updateNode target.id (.setCollapsed !target.collapsed)) trivial)
    · exact .throw _

theorem byCalls_add (context : Context ε) (args : Arguments) (place : NewNodePlace) :
    (context.add args place : HostM σ Reply).ByCalls (Action.add place).MayMake := by
  unfold add
  refine .bind (byCalls_target context args "nodeId") fun anchor => ?_
  cases place with
  | child =>
    refine .bind (.call (.addChildNode anchor.id _ _) trivial) fun created => ?_
    cases created <;> exact .pure _
  | sibling =>
    refine .bind (.call (.addSiblingNode anchor.id _ _) trivial) fun created => ?_
    cases created <;> exact .pure _

theorem byCalls_edit (context : Context ε) (args : Arguments) (cursor : CursorPlacement) :
    (context.edit args cursor : HostM σ Reply).ByCalls (Action.edit cursor).MayMake := by
  unfold edit
  refine .bind (byCalls_target context args "nodeId") fun target => ?_
  cases cursor with
  | atStart =>
    exact .bind (.of_silently (.call (.startEditAtStart target.id) trivial)) fun _ => .pure _
  | atEnd =>
    exact .bind (.of_silently (.call (.startEditAtEnd target.id) trivial)) fun _ => .pure _

theorem byCalls_rename (context : Context ε) (args : Arguments) :
    (context.rename args : HostM σ Reply).ByCalls Action.rename.MayMake :=
  .bind (.ofExcept _) fun text => .bind (byCalls_target context args "nodeId") fun target =>
    .bind (.of_silently (.call (.updateNode target.id (.setText text)) trivial)) fun _ => .pure _

theorem byCalls_annotate (context : Context ε) (args : Arguments) :
    (context.annotate args : HostM σ Reply).ByCalls Action.annotate.MayMake :=
  .bind (.ofExcept _) fun _ => .bind (byCalls_target context args "nodeId") fun target =>
    .bind (.of_silently (.call (.updateNode target.id (.setNote _)) trivial)) fun _ => .pure _

theorem byCalls_relocate (context : Context ε) (args : Arguments) :
    (context.relocate args : HostM σ Reply).ByCalls Action.relocate.MayMake := by
  unfold relocate
  refine .bind (byCalls_target context args "nodeId") fun node => ?_
  split
  · next targetId _ =>
    refine .bind (Host.byCalls_node targetId) fun _ => ?_
    dsimp only
    split
    · next placement _ =>
      refine .bind (.pure placement) fun placement => ?_
      split
      · exact .pure _
      · exact .bind (.of_silently (.call (.moveNode node.id targetId placement) trivial))
          fun _ => .pure _
    · exact .throw _
  · exact .throw _

theorem byCalls_copy (context : Context ε) (args : Arguments) :
    (context.copy args : HostM σ Reply).ByCalls Action.copy.MayMake :=
  .bind (byCalls_target context args "nodeId") fun target =>
    .bind (.of_silently (.call (.copyNode target.id) trivial)) fun _ => .pure _

theorem byCalls_paste (context : Context ε) (args : Arguments) :
    (context.paste args : HostM σ Reply).ByCalls Action.paste.MayMake :=
  .bind (byCalls_target context args "parentId") fun parent =>
    .bind (.of_silently (.call (.pasteNode parent.id) trivial)) fun _ => .pure _

end Context

theorem Action.byCalls_run [TextWidth] (context : Context ε) (args : Arguments) (action : Action) :
    (action.run context args : HostM σ Reply).ByCalls action.MayMake := by
  cases action with
  | go direction => exact context.byCalls_go args direction
  | select => exact context.byCalls_select args
  | center => exact context.byCalls_center args
  | delete => exact context.byCalls_delete args
  | toggle => exact context.byCalls_toggle args
  | add place => exact context.byCalls_add args place
  | edit cursor => exact context.byCalls_edit args cursor
  | rename => exact context.byCalls_rename args
  | annotate => exact context.byCalls_annotate args
  | relocate => exact context.byCalls_relocate args
  | copy => exact context.byCalls_copy args
  | paste => exact context.byCalls_paste args
  | undo => exact .bind (.of_silently (.call .undo trivial)) fun _ => .pure _
  | redo => exact .bind (.of_silently (.call .redo trivial)) fun _ => .pure _
  | help | palette => exact .pure _

/-- No action opens or closes the context menu. -/
theorem Action.not_setsMenu_of_mayMake {action : Action} {request : Request}
    (may : action.MayMake request) : ¬request.SetsMenu := by
  cases request with
  | openContextMenu | closeContextMenu => cases action <;> simp [MayMake] at may
  | _ => exact id

/-- Values that say what commands do. -/
class Executor (ε : Type) where
  /-- Run an executor on a host. -/
  run {σ : Type} [Host σ] (executor : ε) (context : Context ε) (args : Arguments) : HostM σ Reply
  /-- The requests that an executor can make of a host. -/
  MayMake : ε → Request → Prop
  /-- An executor changes a host by these requests alone. -/
  byCalls {σ : Type} [Host σ] (executor : ε) (context : Context ε) (args : Arguments) :
    (run executor context args : HostM σ Reply).ByCalls (MayMake executor)
  /-- The operations on the context menu are not for commands. -/
  not_setsMenu {executor : ε} {request : Request} (may : MayMake executor request) :
    ¬request.SetsMenu

instance [TextWidth] : Executor Action where
  run action context args := action.run context args
  MayMake := Action.MayMake
  byCalls action context args := action.byCalls_run context args
  not_setsMenu := Action.not_setsMenu_of_mayMake

end MindMap
