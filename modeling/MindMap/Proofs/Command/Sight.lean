import MindMap.Proofs.Command.Checking
import MindMap.Proofs.Command.Deletion
import MindMap.Proofs.Session.Sight

/-!
# Stock lines keep selections in sight

The stock lines that move, toggle or delete keep a selection in sight, whatever count or target they
give, and so do those that add to the selection or edit it: `stock_lines_keep_selections_in_sight`.
A motion changes nothing else in the document than that it expands collapsed nodes above its end. It
does so by toggling them, so it matters that each is collapsed when its turn comes.

A line that adds to another node than the selection, or edits one, is no such line: that node may be
out of sight, and the new selection with it.
-/

namespace MindMap

open CommandLine

variable {ε : Type}

namespace Session

variable {session after : Session} {args : Arguments} {message : Option String}

theorem Looks.eq_of_ok {α : Type} {step : HostM Session α} {value : α}
    (looks : Looks step session) (run : step.run session = .ok value after) : session = after :=
  looks.symm.trans (HostM.after_of_ok run)

/-! ### Motions -/

theorem run_expand_of_collapsed {id : String} {node : Node} (distinct : session.document.Distinct)
    (found : session.document.find? id = some node) (collapsed : node.collapsed = true) :
    (Context.expand id).run session = .ok () (session.commit (session.document.expanded [id])) := by
  have changed := distinct.update?_expand (Forest.mem_ids_of_find? found)
  have toggled : (Host.toggleCollapse id : HostM Session Unit).run session =
      .ok () (session.commit (session.document.expanded [id])) := by
    have run := run_toggleCollapse id session
    rw [found] at run
    dsimp only at run
    rw [collapsed, Bool.not_true, changed] at run
    exact run
  unfold Context.expand
  rw [HostM.run_tryCatch, toggled]

/-- Collapsed nodes can be expanded one after another, each once. -/
theorem run_forM_expand_of_collapsed {ids : List String} (nodup : ids.Nodup)
    (distinct : session.document.Distinct)
    (collapsed : ∀ id ∈ ids, (session.document.find? id).map (·.collapsed) = some true) :
    ∃ middle, (ids.forM Context.expand).run session = .ok () middle ∧
      middle.document = session.document.expanded ids ∧ middle.selection = session.selection := by
  induction ids generalizing session with
  | nil => exact ⟨session, rfl, (Forest.expanded_nil _).symm, rfl⟩
  | cons id rest inductionHypothesis =>
    obtain ⟨notAgain, restNodup⟩ := List.nodup_cons.mp nodup
    obtain ⟨node, found, isCollapsed⟩ := Option.map_eq_some_iff.mp (collapsed id List.mem_cons_self)
    have expanded := run_expand_of_collapsed distinct found isCollapsed
    let middle := session.commit (session.document.expanded [id])
    have middleDistinct : middle.document.Distinct := by
      unfold Forest.Distinct
      rw [document_commit, Forest.ids_expanded]
      exact distinct
    have stillCollapsed : ∀ other ∈ rest,
        (middle.document.find? other).map (·.collapsed) = some true := by
      intro other member
      have differs : other ≠ id := by
        rintro rfl
        exact notAgain member
      obtain ⟨otherNode, otherFound, otherCollapsed⟩ :=
        Option.map_eq_some_iff.mp (collapsed other (List.mem_cons_of_mem _ member))
      have otherId := (Forest.mem_nodes_of_find? otherFound).2
      rw [document_commit, Forest.find?_expanded, otherFound]
      simp [otherCollapsed, otherId, differs]
    obtain ⟨final, others, document, selection⟩ :=
      inductionHypothesis restNodup middleDistinct stillCollapsed
    refine ⟨final, ?_, ?_, selection⟩
    · exact HostM.run_bind_eq_ok.mpr ⟨(), middle, expanded, others⟩
    · rw [document, document_commit, Forest.expanded_cons]

/-- What a motion does to a session. -/
inductive Travels (before after : Session) (direction : Direction) (count : Nat) : Prop
  /-- With nothing selected, a root is selected. -/
  | enters (nothing : before.selection = none) (document : after.document = before.document)
  /-- Where the motion leads nowhere, nothing changes. -/
  | stays {current : String} (selected : before.selection = some current)
      (nowhere : before.document.navigate? current direction count before.spatial = none)
      (same : after = before)
  /-- Where it leads somewhere, the target is selected, with some nodes above it expanded. -/
  | arrives {current : String} {motion : Motion} (selected : before.selection = some current)
      (leads : before.document.navigate? current direction count before.spatial = some motion)
      (target : after.selection = some motion.target)
      (document : after.document = before.document.expanded motion.expand)
      (above : ∀ id ∈ motion.expand, ∃ above ∈ before.document.nodes, above.id = id ∧
        above.collapsed = true ∧ motion.target ∈ above.children.ids)

/-- A motion that leads somewhere expands what is collapsed above its target and selects it. -/
theorem run_motion {motion : Motion} (distinct : session.document.Distinct)
    (reveals : session.document.Reveals motion) {next : HostM Session Reply} {reply : Reply}
    (run : (do
      motion.expand.forM Context.expand
      Host.selectNode (some motion.target)
      next : HostM Session Reply).run session = .ok reply after) :
    ∃ middle, next.run middle = .ok reply after ∧
      middle.document = session.document.expanded motion.expand ∧
      middle.selection = some motion.target := by
  have collapsed : ∀ id ∈ motion.expand,
      (session.document.find? id).map (·.collapsed) = some true := by
    intro id listed
    obtain ⟨above, inForest, rfl, isCollapsed, -⟩ := reveals.above id listed
    rw [distinct.find?_eq inForest, Option.map_some, isCollapsed]
  obtain ⟨middle, expanded, document, -⟩ :=
    run_forM_expand_of_collapsed reveals.nodup distinct collapsed
  have selected : (Host.selectNode (some motion.target) : HostM Session Unit).run middle =
      .ok () (middle.setSelection (some motion.target)) :=
    run_selectNode_of_mem (document ▸ reveals.shows.1)
  rw [EStateM.run_bind, expanded] at run
  dsimp only at run
  rw [EStateM.run_bind, selected] at run
  exact ⟨_, run, (document_setSelection _ _).trans document, selection_setSelection _ _⟩

/-- A motion that is done has made its way through the document and ended in sight. -/
theorem travels_of_go (consistent : session.Consistent) (inSight : session.InSight)
    {registry : Registry ε} {direction : Direction}
    (run : ((Context.now registry session).go args direction).run session =
      .ok (.done message) after) :
    ∃ count, Context.motionCount args = .ok count ∧ session.Travels after direction count ∧
      after.InSight := by
  have distinct := consistent.document_distinct
  unfold Context.go at run
  obtain ⟨count, _, counted, run⟩ := HostM.run_bind_eq_ok.mp run
  cases parsed : Context.motionCount args with
  | error failure =>
    rw [parsed] at counted
    cases counted
  | ok n =>
    rw [parsed] at counted
    cases counted
    refine ⟨count, rfl, ?_⟩
    cases selected : session.selection with
    | none =>
      have nothing : (Context.now registry session).selection = none := selected
      rw [nothing] at run
      obtain ⟨_, middle, entered, done⟩ := HostM.run_bind_eq_ok.mp run
      cases done
      have moved := settles_navigateToDirection consistent direction
      exact ⟨.enters selected (documents_eq_of_history (moved.moves_of_ok entered)).2,
        inSight_navigateToDirection consistent entered⟩
    | some current =>
      have isCurrent : (Context.now registry session).selection = some current := selected
      rw [isCurrent] at run
      obtain ⟨node, middle, looked, run⟩ := HostM.run_bind_eq_ok.mp run
      obtain rfl := (Looks.node current).eq_of_ok looked
      obtain ⟨state, _, read, run⟩ := HostM.run_bind_eq_ok.mp run
      cases read
      split at run
      · next nowhere =>
        cases run
        exact ⟨.stays selected nowhere rfl, inSight⟩
      · next motion leads =>
        have reveals := distinct.reveals_of_navigate? (inSight current selected).2 leads
        obtain ⟨_, done, document, target⟩ := run_motion distinct reveals run
        cases done
        refine ⟨.arrives selected leads target document reveals.above, fun other isSelected => ?_⟩
        rw [target] at isSelected
        cases isSelected
        rw [document]
        exact reveals.shows

/-! ### Actions on a target -/

/-- The action goes on with the node that its arguments resolve to. -/
theorem exists_target_of_ok {α : Type} {context : Context ε} {key : String}
    {next : Target → HostM Session α} {value : α}
    (run : (context.target args key >>= next).run session = .ok value after) :
    ∃ target : Target, context.resolve args key = .ok target.id ∧
      (next target).run session = .ok value after := by
  obtain ⟨target, middle, found, run⟩ := HostM.run_bind_eq_ok.mp run
  obtain rfl := (Looks.target context args key).eq_of_ok found
  refine ⟨target, ?_, run⟩
  rw [Context.run_target] at found
  split at found
  · cases found
  · next id resolved =>
    split at found
    · cases found
    · cases found
      exact resolved

theorem failure_of_run_toggleCollapse {id : String} {failure : Failure}
    (run : (toggleCollapse id).run session = .error failure after) :
    failure = .nodeNotFound id := by
  rw [run_toggleCollapse] at run
  split at run
  · split at run
    · dsimp only at run
      split at run <;> cases run
    · cases run
      rfl
  · cases run
    rfl

theorem inSight_of_toggle (consistent : session.Consistent) (inSight : session.InSight)
    {context : Context ε} (run : (context.toggle args).run session = .ok (.done message) after) :
    after.InSight := by
  obtain ⟨target, -, run⟩ := exists_target_of_ok run
  split at run
  · cases run
  · obtain ⟨_, _, toggled, done⟩ := HostM.run_bind_eq_ok.mp run
    cases done
    rw [HostM.run_tryCatch] at toggled
    split at toggled
    · next ran =>
      cases toggled
      exact inSight_toggleCollapse consistent inSight ran
    · next ran =>
      -- A session can toggle, so the update in place of a toggle is never asked for.
      obtain rfl := failure_of_run_toggleCollapse ran
      cases toggled

theorem inSight_of_delete (consistent : session.Consistent) (inSight : session.InSight)
    {context : Context ε} (run : (context.delete args).run session = .ok (.done message) after) :
    after.InSight := by
  obtain ⟨target, -, run⟩ := exists_target_of_ok run
  split at run
  · cases run
  · split at run
    · cases run
    · obtain ⟨_, _, deleted, done⟩ := HostM.run_bind_eq_ok.mp run
      cases done
      exact inSight_deleteNode consistent inSight deleted

/-- The action is about the selection, whatever else its arguments say. -/
def OnSelection (session : Session) (context : Context ε) (args : Arguments) (key : String) : Prop :=
  ∀ id, context.resolve args key = .ok id → session.selection = some id

theorem inSight_of_add (consistent : session.Consistent) (inSight : session.InSight)
    {context : Context ε} (place : NewNodePlace)
    (onSelection : session.OnSelection context args "nodeId")
    (run : (context.add args place).run session = .ok (.done message) after) : after.InSight := by
  obtain ⟨target, resolved, run⟩ := exists_target_of_ok run
  have selected := onSelection target.id resolved
  cases place with
  | child =>
    obtain ⟨created, middle, added, replied⟩ := HostM.run_bind_eq_ok.mp run
    cases created <;> cases replied
    exact (addsBy_addChildNode target.id _ _ session).inSight
      (fun _ _ => gains_of_run_insertShown)
      (fun _ _ => hides_of_run_insertShown consistent.document_distinct) inSight selected added
  | sibling =>
    obtain ⟨created, middle, added, replied⟩ := HostM.run_bind_eq_ok.mp run
    cases created <;> cases replied
    exact (addsBy_addSiblingNode target.id _ _ session).inSight
      (fun _ _ => Edit.gains_of_run_insert) (fun _ _ => hides_of_run_insert_after) inSight selected
      added

theorem inSight_of_paste (consistent : session.Consistent) (inSight : session.InSight)
    {context : Context ε} (onSelection : session.OnSelection context args "parentId")
    (run : (context.paste args).run session = .ok (.done message) after) : after.InSight := by
  obtain ⟨target, resolved, run⟩ := exists_target_of_ok run
  obtain ⟨_, _, pasted, replied⟩ := HostM.run_bind_eq_ok.mp run
  cases replied
  have ran : (pasteNode target.id).run session = .ok () after := pasted
  cases clipboard : session.clipboard with
  | none =>
    rw [run_pasteNode_of_empty clipboard] at ran
    cases ran
  | some copied =>
    exact (addsBy_pasteNode clipboard target.id).inSight (fun _ _ => gains_of_run_insertShown)
      (fun _ _ => hides_of_run_insertShown consistent.document_distinct) inSight
      (onSelection target.id resolved) ran

theorem inSight_of_edit (inSight : session.InSight) {context : Context ε} (cursor : CursorPlacement)
    (onSelection : session.OnSelection context args "nodeId")
    (run : (context.edit args cursor).run session = .ok (.done message) after) : after.InSight := by
  obtain ⟨target, resolved, run⟩ := exists_target_of_ok run
  have selected := onSelection target.id resolved
  cases cursor
  all_goals
    obtain ⟨_, _, begun, replied⟩ := HostM.run_bind_eq_ok.mp run
    cases replied
    exact inSight_beginEdit inSight selected begun

end Session

/-! ### Lines on the selection -/

/-- Without a node named under the key or as the first word, an action is about the selection. -/
theorem Context.resolve_of_absent {context : Context ε} {args : Arguments} {key : String}
    (noKey : args.get? key = none) (noWord : args.positional? 0 = none) :
    context.resolve args key =
      match context.selection with
      | some id => .ok id
      | none => .error .noSelection := by
  have noNode : args.nodeId? key = none := by simp [Arguments.nodeId?, Arguments.spelled?, noKey]
  rw [resolve, noNode, noWord]
  rfl

namespace Stock

/-- No stock command makes up the node that it is about. -/
theorem noDefault_target {command : Command Action} (stock : command ∈ commands) :
    ∀ parameter ∈ command.parameters, parameter.name ∈ ["nodeId", "parentId", positionalKey 0] →
      parameter.default.isNone = true := by
  revert command
  decide

/-- What the commands do whose names they are. -/
def actions : List (String × Action) :=
  [("left", .go .left), ("right", .go .right), ("up", .go .up), ("down", .go .down),
    ("toggle", .toggle), ("delete", .delete), ("add-child", .add .child),
    ("add-sibling", .add .sibling), ("edit", .edit .atStart), ("append", .edit .atEnd),
    ("paste", .paste)]

theorem executor_eq_of_name {command : Command Action} (stock : command ∈ commands) :
    ∀ entry ∈ actions, command.name = entry.1 → command.executor = entry.2 := by
  revert command
  decide

end Stock

/-- The line names no node, neither under the key nor as its first word. -/
def CommandLine.LeavesTarget (line key : String) : Prop :=
  ∀ invocation, Invocation.ofLine line = .ok invocation →
    invocation.args.get? key = none ∧ invocation.args.positional? 0 = none

namespace Registry.Ran

variable [TextWidth] {session : Session} {line : String} {command : Command Action}
  {invocation checked : Invocation} {message : Option String}

/-- The action that has run is known from the name of its command. -/
theorem runs (ran : stock.Ran line session command invocation checked message) (action : Action)
    {name : String} (named : stock.named? line = some name)
    (listed : (name, action) ∈ Stock.actions) :
    (action.run (.now .stock session) checked.args).run session =
      .ok (.done message) (stock.executeLine line session).2 := by
  have sameName : command.name = name := Option.some.inj (ran.named.symm.trans named)
  have sameAction : command.executor = action :=
    Stock.executor_eq_of_name (mem_commands_of_get?_stock ran.found) _ listed sameName
  exact sameAction ▸ ran.run

/-- A line that names no node is about the selection. -/
theorem onSelection (ran : stock.Ran line session command invocation checked message) {key : String}
    (isTarget : key ∈ ["nodeId", "parentId"]) (leaves : LeavesTarget line key) :
    session.OnSelection (.now .stock session) checked.args key := by
  obtain ⟨noKey, noWord⟩ := leaves invocation ran.read
  have noDefault : ∀ other ∈ ["nodeId", "parentId", positionalKey 0],
      ∀ parameter ∈ command.parameters, parameter.name = other → parameter.default = none := by
    rintro other isListed parameter declared rfl
    have isStock := mem_commands_of_get?_stock ran.found
    exact Option.isNone_iff_eq_none.mp (Stock.noDefault_target isStock parameter declared isListed)
  have noKeyChecked : checked.args.get? key = none :=
    get?_of_check (noDefault key (List.mem_append_left [positionalKey 0] isTarget)) noKey
      ran.accepted
  have noWordChecked : checked.args.positional? 0 = none :=
    get?_of_check (noDefault (positionalKey 0) (by simp)) noWord ran.accepted
  intro id resolved
  rw [Context.resolve_of_absent noKeyChecked noWordChecked] at resolved
  split at resolved
  · next selected =>
    cases resolved
    exact selected
  · cases resolved

end Registry.Ran

namespace Session

/-- The lines that keep a selection in sight: motions, lines that toggle or delete any node, and
lines that add to the selection or edit it. -/
inductive KeepsInSight (line : String) : Prop
  | motion {direction : Direction} (named : Registry.stock.named? line = some direction.name)
  | change {name : String} (named : Registry.stock.named? line = some name)
      (isChange : name ∈ ["toggle", "delete"])
  | addition {name : String} (named : Registry.stock.named? line = some name)
      (isAddition : name ∈ ["add-child", "add-sibling", "edit", "append"])
      (onSelection : LeavesTarget line "nodeId")
  | paste (named : Registry.stock.named? line = some "paste")
      (onSelection : LeavesTarget line "parentId")

variable {session : Session} {line : String}

/-- Stock lines that move, toggle or delete, and stock lines that add to the selection or edit it,
keep a selection in sight. A motion, moreover, changes nothing in the document but that it expands
collapsed nodes above the node that it ends on. -/
theorem stock_lines_keep_selections_in_sight [TextWidth] (reachable : session.Reachable)
    (inSight : session.InSight) (keeps : KeepsInSight line)
    (done : (Registry.stock.executeLine line session).1.isDone = true) :
    (Registry.stock.executeLine line session).2.InSight ∧
      ∀ direction : Direction, Registry.stock.named? line = some direction.name →
        ∃ args count, Registry.stock.checkedArgs? line = some args ∧
          Context.motionCount args = .ok count ∧
          session.Travels (Registry.stock.executeLine line session).2 direction count := by
  have consistent := reachable.consistent
  obtain ⟨command, invocation, checked, message, ran⟩ := Registry.ran_of_done done
  have goes : ∀ direction : Direction, Registry.stock.named? line = some direction.name →
      ∃ count, Context.motionCount checked.args = .ok count ∧
        session.Travels (Registry.stock.executeLine line session).2 direction count ∧
        (Registry.stock.executeLine line session).2.InSight := by
    intro direction named
    have listed : (direction.name, Action.go direction) ∈ Stock.actions := by
      cases direction <;> decide
    exact travels_of_go consistent inSight (ran.runs (.go direction) named listed)
  constructor
  · cases keeps with
    | motion named =>
      obtain ⟨_, _, _, kept⟩ := goes _ named
      exact kept
    | change named isChange =>
      simp only [List.mem_cons, List.not_mem_nil, or_false] at isChange
      rcases isChange with rfl | rfl
      · exact inSight_of_toggle consistent inSight (ran.runs .toggle named (by decide))
      · exact inSight_of_delete consistent inSight (ran.runs .delete named (by decide))
    | addition named isAddition onSelection =>
      have selected := ran.onSelection (by simp) onSelection
      simp only [List.mem_cons, List.not_mem_nil, or_false] at isAddition
      rcases isAddition with rfl | rfl | rfl | rfl
      · exact inSight_of_add consistent inSight .child selected
          (ran.runs (.add .child) named (by decide))
      · exact inSight_of_add consistent inSight .sibling selected
          (ran.runs (.add .sibling) named (by decide))
      · exact inSight_of_edit inSight .atStart selected
          (ran.runs (.edit .atStart) named (by decide))
      · exact inSight_of_edit inSight .atEnd selected (ran.runs (.edit .atEnd) named (by decide))
    | paste named onSelection =>
      have selected := ran.onSelection (by simp) onSelection
      exact inSight_of_paste consistent inSight selected (ran.runs .paste named (by decide))
  · intro direction named
    obtain ⟨count, counted, travels, -⟩ := goes direction named
    exact ⟨checked.args, count, ran.args, counted, travels⟩

/-- A session on a document that was folded up from its only leaf to its root. -/
def folded : Session :=
  branching.run [.call (.toggleCollapse "node-1"), .call (.toggleCollapse "trunk")]

theorem reachable_folded : folded.Reachable := reachable_branching.run _

attribute [local instance] TextWidth.perCharacter

theorem motion_out_of_folded_trunk :
    folded.selection = some "trunk" ∧
      (Registry.stock.executeLine "right 3" folded).2.selection = some "node-2" ∧
      (Registry.stock.executeLine "right 3" folded).2.InSight ∧
      ∃ args count, Registry.stock.checkedArgs? "right 3" = some args ∧
        Context.motionCount args = .ok count ∧
        folded.Travels (Registry.stock.executeLine "right 3" folded).2 .right count := by
  have inSight : folded.InSight := by
    rintro _ ⟨⟩
    decide +kernel
  have named : Registry.stock.named? "right 3" = some Direction.right.name := by decide
  have kept := stock_lines_keep_selections_in_sight reachable_folded inSight (.motion named)
    (by decide +kernel)
  exact ⟨by decide, by decide +kernel, kept.1, kept.2 .right named⟩

end Session

end MindMap
