import Mathlib.Data.List.Induction
import Mathlib.Data.List.Infix
import MindMap.Proofs.Command.Deletion
import MindMap.Proofs.Session.Frames

/-!
# The node of the context menu

The context menu is opened on a node of the document, or on none. While it is open the document can
lose that node. A selection and an edit do not outlive their nodes, but the menu does: whatever loses
its node leaves it open, and it stays open on nothing until it is opened elsewhere or closed, or the
node comes back. This is the only way there: `menu_dangles_iff_lost`.

What carries the induction is that no operation mixes requests that set the menu with requests that
lose nodes (`Gesture.dispatch_effect`).
-/

namespace MindMap

open CommandLine

theorem Request.CanLose.not_setsMenu {request : Request} (canLose : request.CanLose) :
    ¬request.SetsMenu := by
  cases request <;> first | exact id | cases canLose

/-- No request that gestures make of themselves loses a node. -/
theorem Gesture.not_canLose_of_asks {request : Request} (asks : Asks request) :
    ¬request.CanLose := by
  cases request <;> first | exact id | cases asks

namespace Session

variable {session : Session} {id : String}

/-- The node that the context menu is open on. -/
def menuNode? (session : Session) : Option String := session.menu.bind (·.id)

/-- If the menu is open on a node, it is one of the document. -/
def MenuHolds (session : Session) : Prop :=
  ∀ id, session.menuNode? = some id → id ∈ session.document.ids

/-- The menu is open on a node that the document does not have. -/
def MenuDangles (session : Session) (id : String) : Prop :=
  session.menuNode? = some id ∧ id ∉ session.document.ids

/-- An operation loses the node that the menu is open on. -/
structure LosesMenuNode (session : Session) (operation : Operation) (id : String) : Prop where
  isOpen : session.menuNode? = some id
  present : id ∈ session.document.ids
  lost : id ∉ (session.perform operation).document.ids

theorem menuNode?_of_menu {after : Session} (same : after.menu = session.menu) :
    after.menuNode? = session.menuNode? := by
  rw [menuNode?, menuNode?, same]

theorem MenuHolds.of_retains {after : Session} (holds : session.MenuHolds)
    (same : after.menu = session.menu) (retains : session.Retains after) : after.MenuHolds := by
  intro id isOpen
  rw [menuNode?_of_menu same] at isOpen
  exact retains id (holds id isOpen)

/-! ### Requests -/

theorem spares_menu {request : Request} (apart : ¬request.SetsMenu) :
    (request.make : HostM Session (Option String)).Spares menu := by
  cases request with
  | openContextMenu | closeContextMenu => exact absurd trivial apart
  | copyNode id =>
    have copies : (copyNode id).Spares menu :=
      .bind (spares_findNode id) fun _ => .of_modify fun _ => rfl
    exact copies.silently
  | _ => exact (spares_request id).comp Prod.snd

theorem menuHolds_openContextMenu (x y : Float) (id : Option String) (session : Session) :
    ((openContextMenu x y id).after session).menu = session.menu ∨
      ((openContextMenu x y id).after session).MenuHolds := by
  have run := run_openContextMenu x y id session
  split at run
  · right
    rw [HostM.after_of_ok run]
    rintro _ ⟨⟩
  · next id =>
    split at run
    · next node found =>
      right
      rw [HostM.after_of_ok run]
      rintro _ ⟨⟩
      change id ∈ (session.setSelection (some id)).document.ids
      rw [document_setSelection]
      exact Forest.mem_ids_of_find? found
    · left
      rw [HostM.after_of_error run]

theorem menuHolds_closeContextMenu (session : Session) :
    (closeContextMenu.after session).menu = session.menu ∨
      (closeContextMenu.after session).MenuHolds := by
  have run : closeContextMenu.run session = .ok () (if session.menu.isSome then
      { session with menu := none }.announce .panels else session) := rfl
  rw [HostM.after_of_ok run]
  split
  · right
    rintro _ ⟨⟩
  · exact .inl rfl

/-- A request leaves the menu as it is, or closed, or open on a node of the document. -/
theorem menuHolds_request (request : Request) (session : Session) :
    (request.make.after session).menu = session.menu ∨ (request.make.after session).MenuHolds := by
  by_cases sets : request.SetsMenu
  · cases request with
    | openContextMenu x y id =>
      have opened : (Request.openContextMenu x y id).make.after session =
        (openContextMenu x y id).after session := HostM.after_silently _ session
      rw [opened]
      exact menuHolds_openContextMenu x y id session
    | closeContextMenu =>
      have closed : Request.closeContextMenu.make.after session = closeContextMenu.after session :=
        HostM.after_silently _ session
      rw [closed]
      exact menuHolds_closeContextMenu session
    | _ => cases sets
  · exact .inl (spares_menu sets session)

/-! ### Operations -/

/-- Requests that cannot lose a node keep the menu on one. -/
theorem Consistent.menuHolds_of_leads (consistent : session.Consistent) {after : Session}
    {allowed : Request → Prop} (leads : Host.LeadsBy allowed session after)
    (harmless : ∀ request, allowed request → ¬request.CanLose) :
    after.menu = session.menu ∨ session.Retains after ∧ after.MenuHolds := by
  have preserved : ∀ (middle : Session) (request : Request), middle.Consistent → allowed request →
      session.Retains middle ∧ (middle.menu = session.menu ∨ middle.MenuHolds) →
      session.Retains (request.make.after middle) ∧
        ((request.make.after middle).menu = session.menu ∨ (request.make.after middle).MenuHolds) := by
    rintro middle request kept may ⟨retains, menu⟩
    have next := kept.retains_call (harmless request may)
    refine ⟨retains.trans next, ?_⟩
    rcases menuHolds_request request middle with same | holds
    · rcases menu with before | held
      · exact .inl (same.trans before)
      · exact .inr (held.of_retains same next)
    · exact .inr holds
  obtain ⟨retains, menu⟩ :=
    consistent.invariant_of_leads preserved leads ⟨.refl session, .inl rfl⟩
  exact menu.imp_right fun holds => ⟨retains, holds⟩

/-- An operation leaves the menu as it is, or it loses no node and the menu is closed or open on a
node. -/
theorem Consistent.menuHolds_perform (consistent : session.Consistent) (operation : Operation) :
    (session.perform operation).menu = session.menu ∨
      session.Retains (session.perform operation) ∧ (session.perform operation).MenuHolds := by
  rcases session.leads_or_spares operation with leads | ⟨-, apart, -⟩
  · cases operation with
    | call request =>
      by_cases canLose : request.CanLose
      · exact .inl (spares_menu canLose.not_setsMenu session)
      · refine consistent.menuHolds_of_leads leads ?_
        rintro _ rfl
        exact canLose
    | executeLine registry line =>
      left
      refine spares_of_leads leads fun request may => ?_
      obtain ⟨_, _, _, _, may⟩ := may
      exact spares_menu (Executor.not_setsMenu may)
    | execute registry invocation =>
      left
      refine spares_of_leads leads fun request may => ?_
      obtain ⟨_, _, may⟩ := may
      exact spares_menu (Executor.not_setsMenu may)
    | dispatch registry gesture =>
      cases gesture.dispatch_effect registry session with
      | asked leads =>
        exact consistent.menuHolds_of_leads leads fun _ => Gesture.not_canLose_of_asks
      | moved command named leads =>
        left
        exact spares_of_leads leads fun _ may => spares_menu (Executor.not_setsMenu may)
    | _ => exact .inl (spares_of_leads leads fun _ may => may.elim)
  · exact .inl (congrArg (·.2.2) apart)

theorem Consistent.retains_perform (consistent : session.Consistent) {operation : Operation}
    (harmless : ∀ request, operation.MayMake request → ¬request.CanLose) :
    session.Retains (session.perform operation) := by
  rcases session.leads_or_spares operation with leads | ⟨-, -, sameIds⟩
  · refine consistent.invariant_of_leads (fun middle request kept may retains => ?_) leads
      (.refl session)
    exact retains.trans (kept.retains_call (harmless request may))
  · intro id member
    rwa [sameIds]

namespace LosesMenuNode

variable {operation : Operation}

/-- What loses the node of the menu can delete, undo or redo. -/
theorem canLose (loses : session.LosesMenuNode operation id) (consistent : session.Consistent) :
    ∃ request, operation.MayMake request ∧ request.CanLose := by
  by_contra harmless
  simp only [not_exists, not_and] at harmless
  exact loses.lost (consistent.retains_perform harmless id loses.present)

/-- What loses the node of the menu leaves the menu open. -/
theorem menu (loses : session.LosesMenuNode operation id) (consistent : session.Consistent) :
    (session.perform operation).menu = session.menu := by
  rcases consistent.menuHolds_perform operation with same | ⟨retains, -⟩
  · exact same
  · exact absurd (retains id loses.present) loses.lost

end LosesMenuNode

/-- A menu that is open on a missing node was open on it before, when the node was there or missing
already. -/
theorem Consistent.menuDangles_before (consistent : session.Consistent) {operation : Operation}
    (dangles : (session.perform operation).MenuDangles id) :
    (session.perform operation).menu = session.menu ∧
      (session.LosesMenuNode operation id ∨ session.MenuDangles id) := by
  obtain ⟨isOpen, missing⟩ := dangles
  rcases consistent.menuHolds_perform operation with same | ⟨-, holds⟩
  · rw [menuNode?_of_menu same] at isOpen
    by_cases present : id ∈ session.document.ids
    · exact ⟨same, .inl ⟨isOpen, present, missing⟩⟩
    · exact ⟨same, .inr ⟨isOpen, present⟩⟩
  · exact absurd (holds id isOpen) missing

/-! ### Runs -/

/-- A run in which an operation loses the node of the menu, and from there on the menu stays and the
node is missing. -/
def LosesMenuNodeFor (opened : Session) (operations : List Operation) (id : String) : Prop :=
  ∃ earlier operation later, operations = earlier ++ operation :: later ∧
    (opened.run earlier).LosesMenuNode operation id ∧
    ∀ next, next <+: later →
      (opened.run (earlier ++ operation :: next)).menu = (opened.run earlier).menu ∧
        id ∉ (opened.run (earlier ++ operation :: next)).document.ids

theorem LosesMenuNodeFor.dangles {opened : Session} {operations : List Operation}
    (loses : opened.LosesMenuNodeFor operations id) : (opened.run operations).MenuDangles id := by
  obtain ⟨earlier, operation, later, rfl, loses, stays⟩ := loses
  obtain ⟨same, missing⟩ := stays later List.prefix_rfl
  exact ⟨(menuNode?_of_menu same).trans loses.isOpen, missing⟩

theorem losesMenuNodeFor_of_dangles {document : Forest} {opened : Session}
    (created : create document = .ok opened) {operations : List Operation}
    (dangles : (opened.run operations).MenuDangles id) :
    opened.LosesMenuNodeFor operations id := by
  induction operations using List.reverseRecOn with
  | nil =>
    obtain ⟨-, rfl⟩ := create_eq_ok_iff.mp created
    cases dangles.1
  | append_singleton operations last inductionHypothesis =>
    have consistent := ((consistent_create created).keeps_run operations).1
    rw [run_append] at dangles
    obtain ⟨same, loses | already⟩ := consistent.menuDangles_before dangles
    · refine ⟨operations, last, [], rfl, loses, fun next begins => ?_⟩
      rw [List.prefix_nil.mp begins, run_append]
      exact ⟨same, loses.lost⟩
    · obtain ⟨earlier, operation, later, rfl, loses, stays⟩ := inductionHypothesis already
      refine ⟨earlier, operation, later ++ [last], by simp, loses, fun next begins => ?_⟩
      rcases List.prefix_concat_iff.mp begins with rfl | before
      · rw [← List.cons_append, ← List.append_assoc, run_append]
        exact ⟨same.trans (stays later List.prefix_rfl).1, dangles.2⟩
      · exact stays next before

/-- After any run, the menu is open on a missing node exactly if some operation lost the node under it
and the menu has been left alone since. Whatever loses the node of the menu can delete, undo or redo,
and leaves the menu as it was. -/
theorem menu_dangles_iff_lost {document : Forest} {opened : Session}
    (created : create document = .ok opened) (operations : List Operation) (id : String) :
    ((opened.run operations).MenuDangles id ↔ opened.LosesMenuNodeFor operations id) ∧
    ∀ operation, (opened.run operations).LosesMenuNode operation id →
      (∃ request, operation.MayMake request ∧ request.CanLose) ∧
        ((opened.run operations).perform operation).menu = (opened.run operations).menu := by
  have consistent := ((consistent_create created).keeps_run operations).1
  refine ⟨⟨losesMenuNodeFor_of_dangles created, LosesMenuNodeFor.dangles⟩, ?_⟩
  intro operation loses
  exact ⟨loses.canLose consistent, loses.menu consistent⟩

attribute [local instance] TextWidth.perCharacter

/-- The menu is opened on a new node. -/
def pointingAtLeaf : List Operation :=
  [.call (.addChildNode "trunk" (some "Leaf") false), .dispatch .stock ⟨1.0, 2.0, .nodeMenu "node-1"⟩]

/-- The session in which it is. -/
def pointing : Session := (ofForest sapling).run pointingAtLeaf

theorem losesMenuNode_pointing :
    pointing.LosesMenuNode (.executeLine .stock "delete") "node-1" where
  isOpen := rfl
  present := by decide
  lost := by decide

theorem menu_left_open_by_deletion :
    create sapling = .ok (ofForest sapling) ∧
      pointing.LosesMenuNode (.executeLine .stock "delete") "node-1" ∧
      (pointing.perform (.executeLine .stock "delete")).menu = pointing.menu ∧
      (ofForest sapling).LosesMenuNodeFor (pointingAtLeaf ++ [.call .undo]) "node-1" := by
  have created : create sapling = .ok (ofForest sapling) := rfl
  have undone := (menu_dangles_iff_lost created (pointingAtLeaf ++ [.call .undo]) "node-1").1
  have deleted := (menu_dangles_iff_lost created pointingAtLeaf "node-1").2
  exact ⟨created, losesMenuNode_pointing, (deleted _ losesMenuNode_pointing).2,
    undone.mp ⟨rfl, by decide⟩⟩

/-- The selection goes to the parent of the deleted node, the menu stays. -/
theorem menu_open_on_deleted_node :
    (pointing.perform (.executeLine .stock "delete")).Reachable ∧
      (pointing.perform (.executeLine .stock "delete")).selection = some "trunk" ∧
      (pointing.perform (.executeLine .stock "delete")).menuNode? = some "node-1" ∧
      "node-1" ∉ (pointing.perform (.executeLine .stock "delete")).document.ids := by
  have reachable : pointing.Reachable := ⟨sapling, _, pointingAtLeaf, rfl, rfl⟩
  exact ⟨reachable.run [.executeLine .stock "delete"], by decide, by decide,
    losesMenuNode_pointing.lost⟩

end Session

end MindMap
