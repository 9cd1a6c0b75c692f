import MindMap.Proofs.Command.Checking
import MindMap.Proofs.Command.StockLines
import MindMap.Proofs.Session.Outcomes

/-!
# Dropped nodes

A node that is dropped is moved by the stock command, where that is registered, and else by the host
itself. The command looks before it asks: for both nodes, for the name of the place, and whether the two
nodes are one. A session refuses by itself whatever the command refuses, and leaves everything as it was,
so that both ways come to the same.

What a command is given by a drop are texts that were read from no word. An id is taken as it is, even
if it looks like a number or a flag; only a blank one is no id to the check, and to the session it is.
-/

namespace MindMap

open CommandLine

theorem Placement.ofName_name (placement : Placement) :
    Placement.ofName placement.name = .ok placement := by
  cases placement <;> decide +kernel

/-- How a node that has been placed stands to its target, as a phrase. -/
def Placement.relation : Placement → String
  | .before => "before"
  | .after => "after"
  | .child => "under"

/-- What the stock command that moves nodes declares. -/
def Stock.moveParameters : List Parameter :=
  [nodeId "Node to move",
    { name := "target", type := .nodeId, required := true, description := "Drop target" },
    { name := "position", type := .text, default := some (.text "child"),
      description := "before, after or child" }]

theorem Stock.exists_move : ∃ command ∈ commands, command.name = Gesture.moveCommand ∧
    command.parameters = moveParameters ∧ command.executor = .relocate :=
  ⟨commands[14], List.getElem_mem (by decide), rfl, rfl, rfl⟩

namespace Gesture

/-- The reply to a gesture that comes to a single call, with what is said when it succeeds. -/
def replyWith {σ : Type} (done : Reply) : EStateM.Result Failure σ Unit → Reply × σ
  | .ok _ reached => (done, reached)
  | .error failure reached => (.ofFailure failure, reached)

theorem replyTo_one {σ : Type} (step : HostM σ Unit) (state : σ) :
    replyTo [step] state = replyWith .silent (step.run state) := by
  unfold replyTo askAll
  cases step.run state <;> rfl

theorem contains_moveCommand {ε : Type} [TextWidth] [Executor ε] {registry : Registry ε}
    (stock : registry.HasStock) : registry.contains moveCommand = true := by
  obtain ⟨executor, -, holds⟩ := stock
  obtain ⟨command, isStock, isMove, -⟩ := Stock.exists_move
  rw [Registry.contains, ← isMove, holds.get? isStock]
  rfl

variable {σ ε : Type} [Host σ] {args : Arguments} {registry : Registry ε}
  {dragged target : String} {placement : Placement}

/-- The checked arguments of a drop. -/
structure TellsDrop (args : Arguments) (dragged target : String) (placement : Placement) :
    Prop where
  node : args.nodeId? "nodeId" = some dragged
  target : args.nodeId? "target" = some target
  placement : args.text? "position" = some placement.name

/-- What a check faults in a drop: ids that are blank. -/
def dropFaults (dragged target : String) : List Violation :=
  (if Text.allBlank dragged then [.mistyped "nodeId" .nodeId] else []) ++
    if Text.allBlank target then [.mistyped "target" .nodeId] else []

section

variable (dragged target : String) (placement : Placement)

theorem args_dropInvocation : (dropInvocation dragged target placement).args =
    ((Arguments.empty.insert "nodeId" (.text dragged)).insert "target" (.text target)).insert
      "position" (.text placement.name) := rfl

theorem violations_drop :
    violations Stock.moveParameters (dropInvocation dragged target placement).args =
      dropFaults dragged target := by
  unfold dropFaults
  cases blankDragged : Text.allBlank dragged <;> cases blankTarget : Text.allBlank target <;>
    simp [violations, Stock.moveParameters, Stock.nodeId, Parameter.violation?,
      args_dropInvocation, Arguments.get?_insert, ArgumentType.accept?, blankDragged, blankTarget]

theorem check_drop_of_blank {dragged target : String}
    (blank : (Text.allBlank dragged || Text.allBlank target) = true) :
    check Stock.moveParameters (dropInvocation dragged target placement) =
      .error (dropFaults dragged target) := by
  have faults : dropFaults dragged target ≠ [] := by
    unfold dropFaults
    rcases Bool.or_eq_true_iff.mp blank with isBlank | isBlank <;> simp [isBlank]
  rw [check, violations_drop]
  split
  · next none => exact absurd none faults
  · rfl

end

/-- Without blank ids, a drop passes the check as it is. -/
theorem exists_check_drop (draggedGiven : Text.allBlank dragged = false)
    (targetGiven : Text.allBlank target = false) (placement : Placement) :
    ∃ checked, check Stock.moveParameters (dropInvocation dragged target placement) = .ok checked ∧
      TellsDrop checked.args dragged target placement := by
  obtain ⟨checked, accepted⟩ : ∃ checked,
      check Stock.moveParameters (dropInvocation dragged target placement) = .ok checked := by
    rw [check, violations_drop, dropFaults, draggedGiven, targetGiven]
    exact ⟨_, rfl⟩
  obtain ⟨-, settled⟩ := checkedArguments_of_check (by decide) accepted
  rw [args_dropInvocation] at settled
  have moved : checked.args.get? "nodeId" = some (.nodeId dragged) :=
    settled.node _ (.head _) rfl (.text dragged) (by simp [Stock.nodeId, Arguments.get?_insert])
  have beside : checked.args.get? "target" = some (.nodeId target) :=
    settled.node _ (.tail _ (.head _)) rfl (.text target) (by simp [Arguments.get?_insert])
  have place : checked.args.get? "position" = some (.text placement.name) :=
    settled.kept _ (.tail _ (.tail _ (.head _))) (by decide) _ (by simp [Arguments.get?_insert])
  refine ⟨checked, accepted, ?_, ?_, ?_⟩
  · simp [Arguments.nodeId?, Arguments.spelled?, moved, draggedGiven]
  · simp [Arguments.nodeId?, Arguments.spelled?, beside, targetGiven]
  · simp [Arguments.text?, place, Value.text?]

/-- What the move command says of a drop once the host has moved the node. -/
def movedMessage (node target : Node) (placement : Placement) : String :=
  "Moved " ++ inQuotes node.text ++ " " ++ placement.relation ++ " " ++ inQuotes target.text

/-- The action of the move command looks for both nodes before it asks the host to move one. -/
theorem run_relocate_of_tellsDrop (tells : TellsDrop args dragged target placement)
    (context : Context ε) (state : σ) :
    (context.relocate args).run state =
      match Host.findNode state dragged, Host.findNode state target with
      | none, _ => .error (.nodeNotFound dragged) state
      | some _, none => .error (.nodeNotFound target) state
      | some node, some targetNode =>
        if dragged = target then
          .ok (.refused ("Cannot move " ++ inQuotes node.text ++ " relative to itself")) state
        else
          match (Host.moveNode dragged target placement).run state with
          | .ok _ reached => .ok (.say (movedMessage node targetNode placement)) reached
          | .error failure reached => .error failure reached := by
  have resolved : context.resolve args "nodeId" = .ok dragged := by
    rw [Context.resolve, tells.node]
  unfold Context.relocate
  simp only [EStateM.run_bind, Context.run_target, resolved, tells.target, tells.placement,
    Option.getD_some, Placement.ofName_name]
  cases Host.findNode state dragged with
  | none => rfl
  | some node =>
    simp only [Host.run_node]
    cases Host.findNode state target with
    | none => rfl
    | some targetNode =>
      simp only [EStateM.run_pure]
      split
      · rfl
      · rw [EStateM.run_bind]
        cases (Host.moveNode dragged target placement).run state with
        | ok => cases placement <;> rfl
        | error => rfl

/-- What the move command makes of a drop before it asks the host, given how nodes are looked up: it refuses
the drop, or it knows what to say once the node has been moved. -/
def dropAnswer (find? : String → Option Node) (dragged target : String) (placement : Placement) :
    Except Reply String :=
  if Text.allBlank dragged || Text.allBlank target then
    .error (.refused (Violation.summary (dropFaults dragged target)))
  else
    match find? dragged, find? target with
    | none, _ => .error (.ofFailure (.nodeNotFound dragged))
    | some _, none => .error (.ofFailure (.nodeNotFound target))
    | some node, some targetNode =>
      if dragged = target then
        .error (.refused ("Cannot move " ++ inQuotes node.text ++ " relative to itself"))
      else .ok (movedMessage node targetNode placement)

/-- The stock move command asks any host at most once, and whether it does is told by looking the two nodes
up. -/
theorem execute_drop [TextWidth] [Executor ε] (stock : registry.HasStock)
    (dragged target : String) (placement : Placement) (state : σ) :
    registry.execute (dropInvocation dragged target placement) state =
      match dropAnswer (Host.findNode state) dragged target placement with
      | .error refusal => (refusal, state)
      | .ok message =>
        replyWith (.say message) ((Host.moveNode dragged target placement).run state) := by
  obtain ⟨executor, faithful, holds⟩ := stock
  obtain ⟨command, isStock, isMove, parameters, action⟩ := Stock.exists_move
  have found : registry.get? (dropInvocation dragged target placement).name =
      some (command.map executor) := by
    change registry.get? moveCommand = some (command.map executor)
    rw [← isMove, holds.get? isStock]
  rw [Registry.execute, found, dropAnswer]
  dsimp only
  rw [show (command.map executor).parameters = Stock.moveParameters from parameters]
  -- The check looks at the ids alone, and only the action looks at the document.
  by_cases blank : (Text.allBlank dragged || Text.allBlank target) = true
  · rw [check_drop_of_blank placement blank, if_pos blank]
  · rw [if_neg blank]
    obtain ⟨draggedGiven, targetGiven⟩ :=
      Bool.or_eq_false_iff.mp (Bool.eq_false_of_not_eq_true blank)
    obtain ⟨checked, accepted, tells⟩ := exists_check_drop draggedGiven targetGiven placement
    have run : (registry.runCommand (command.map executor) checked.args).run state =
        ((Context.now registry state).relocate checked.args).run state := by
      change (Executor.run (executor command.executor) (.now registry state) checked.args).run state = _
      rw [faithful.run, action]
      rfl
    rw [accepted]
    dsimp only
    rw [run, run_relocate_of_tellsDrop tells]
    cases Host.findNode state dragged with
    | none => rfl
    | some node =>
      cases Host.findNode state target with
      | none => rfl
      | some targetNode =>
        by_cases same : dragged = target
        · simp only [if_pos same]
        · simp only [if_neg same]
          cases (Host.moveNode dragged target placement).run state <;> rfl

/-- A drop that has no chance: a node is missing, or it is dropped on itself. -/
def HopelessDrop (document : Forest) (dragged target : String) : Prop :=
  dragged ∉ document.ids ∨ target ∉ document.ids ∨ dragged = target

/-- The move command refuses no drops by itself but hopeless ones and those that have a blank id. -/
theorem hopeless_of_dropAnswer {document : Forest} {refusal : Reply}
    (draggedGiven : Text.allBlank dragged = false) (targetGiven : Text.allBlank target = false)
    (refused : dropAnswer document.find? dragged target placement = .error refusal) :
    refusal.isDone = false ∧ HopelessDrop document dragged target := by
  rw [dropAnswer, draggedGiven, targetGiven, if_neg (by decide)] at refused
  split at refused
  · next missing =>
    cases refused
    exact ⟨rfl, .inl (Forest.find?_eq_none_iff.mp missing)⟩
  · next missing =>
    cases refused
    exact ⟨rfl, .inr (.inl (Forest.find?_eq_none_iff.mp missing))⟩
  · split at refused
    · next same =>
      cases refused
      exact ⟨rfl, .inr (.inr same)⟩
    · cases refused

/-- A session refuses hopeless drops as well, and leaves everything as it was. -/
theorem run_moveNode_of_hopeless {session : Session}
    (hopeless : HopelessDrop session.document dragged target) (placement : Placement) :
    ∃ failure, (Session.moveNode dragged target placement).run session =
      .error failure session := by
  suffices ∃ error, (Edit.move dragged target placement).run session.document =
      .error error session.document by
    obtain ⟨error, refused⟩ := this
    exact ⟨.ofEdit error, by rw [Session.moveNode, Session.run_mutate, refused]⟩
  by_cases present : dragged ∈ session.document.ids
  · by_cases targetPresent : target ∈ session.document.ids
    · obtain rfl : dragged = target :=
        (hopeless.resolve_left (not_not_intro present)).resolve_left (not_not_intro targetPresent)
      obtain ⟨node, found⟩ := Forest.exists_find?_of_mem_ids present
      have inside : dragged ∈ node.ids := by
        rw [← (Forest.mem_nodes_of_find? found).2, Node.ids_eq]
        exact List.mem_cons_self
      exact ⟨_, Edit.run_move_into_subtree found present inside placement⟩
    · exact ⟨_, Edit.run_move_of_target_absent present targetPresent placement⟩
  · exact ⟨_, Edit.run_move_of_absent present target placement⟩

/-- In normal mode and in menu modes, the end of a drag commits the drop. -/
theorem dispatch_drop [Executor ε] {state : σ}
    (takesDrops : Host.mode state = .normal ∨ Host.mode state = .menu) {gesture : Gesture}
    (isDrop : gesture.kind = .dragEnd dragged target placement) (registry : Registry ε) :
    gesture.dispatch registry state =
      answered (commitDrop registry dragged target placement state) := by
  have isNormal : (Host.mode state).strategy = .normal := by
    rcases takesDrops with mode | mode <;> rw [mode] <;> rfl
  rw [dispatch, isNormal, takeBy, inNormalMode, isDrop]

/-- A drop on a session comes to the same by the stock command as by the session itself: either both are
done or neither is, and both leave the same session. That the session is reachable plays no part. -/
theorem drop_by_command_eq_by_host [TextWidth] [Executor ε] {session : Session}
    (takesDrops : session.mode = .normal ∨ session.mode = .menu) {stocked : Registry ε}
    (stock : stocked.HasStock) {gesture : Gesture}
    (isDrop : gesture.kind = .dragEnd dragged target placement)
    (draggedGiven : Text.allBlank dragged = false) (targetGiven : Text.allBlank target = false) :
    ∃ byCommand byHost : Reply, ∃ after : Session,
      gesture.dispatch stocked session = (some byCommand, after) ∧
      gesture.dispatch (.empty : Registry ε) session = (some byHost, after) ∧
      byCommand.isDone = byHost.isDone := by
  have named := contains_moveCommand stock
  have unnamed : ¬(Registry.empty : Registry ε).contains moveCommand = true := Bool.false_ne_true
  rw [dispatch_drop takesDrops isDrop, dispatch_drop takesDrops isDrop, commitDrop, if_pos named,
    commitDrop, if_neg unnamed, replyTo_one, execute_drop stock]
  cases answer : dropAnswer (Host.findNode session) dragged target placement with
  | error refusal =>
    -- The session is not asked by the command here, and would have refused.
    obtain ⟨notDone, hopeless⟩ := hopeless_of_dropAnswer draggedGiven targetGiven answer
    obtain ⟨failure, refused⟩ := run_moveNode_of_hopeless hopeless placement
    have asked : (Host.moveNode dragged target placement).run session = .error failure session :=
      refused
    rw [asked]
    exact ⟨refusal, .ofFailure failure, session, rfl, rfl, notDone⟩
  | ok message =>
    dsimp only
    cases (Host.moveNode dragged target placement).run session with
    | ok _ reached => exact ⟨.say message, .silent, reached, rfl, rfl, rfl⟩
    | error failure reached =>
      exact ⟨.ofFailure failure, .ofFailure failure, reached, rfl, rfl, rfl⟩

attribute [local instance] TextWidth.perCharacter

/-- Two nodes whose ids, as words of a line, would be a number and a flag. -/
def oddlyNamed : Session :=
  { Session.ofForest (Forest.ofRoots
      [(Item.plain "007" "Seven").leaf, (Item.plain "--flag" "Flag").leaf]) with mode := .menu }

/-- The one is dropped on the other. -/
def oddDrop : Gesture := ⟨0, 0, .dragEnd "007" "--flag" .child⟩

theorem oddDrop_moves_node :
    Text.allBlank "007" = false ∧ Text.allBlank "--flag" = false ∧
      ∃ byCommand byHost : Reply, ∃ after : Session,
        oddDrop.dispatch Registry.stock oddlyNamed = (some byCommand, after) ∧
        oddDrop.dispatch (.empty : Registry Action) oddlyNamed = (some byHost, after) ∧
        byCommand.isDone = true ∧ after.document.ids = ["--flag", "007"] := by
  have draggedGiven : Text.allBlank "007" = false := by decide
  have targetGiven : Text.allBlank "--flag" = false := by decide
  have takesDrops : oddlyNamed.mode = .normal ∨ oddlyNamed.mode = .menu := .inr rfl
  have isDrop : oddDrop.kind = .dragEnd "007" "--flag" .child := rfl
  obtain ⟨byCommand, byHost, after, commanded, asked, alike⟩ :=
    drop_by_command_eq_by_host takesDrops Registry.hasStock_stock isDrop draggedGiven targetGiven
  have moved : (oddDrop.dispatch (.empty : Registry Action) oddlyNamed).1 = some .silent ∧
      (oddDrop.dispatch (.empty : Registry Action) oddlyNamed).2.document.ids = ["--flag", "007"] := by
    decide +kernel
  rw [asked] at moved
  obtain ⟨done, document⟩ := moved
  refine ⟨draggedGiven, targetGiven, byCommand, byHost, after, commanded, asked, ?_, document⟩
  rw [alike, Option.some.inj done]
  rfl

end Gesture

end MindMap
