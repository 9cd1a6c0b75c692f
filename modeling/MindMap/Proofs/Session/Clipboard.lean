import MindMap.Proofs.Outline.Shape
import MindMap.Proofs.Session.Frames

/-!
# The clipboard

What is copied is a value, and nothing but copying changes the clipboard: it holds what was copied
last, whatever has become of the nodes since. What is pasted is that value with other ids, moved as a
whole.

Commands copy if their executors may; `Operation.Copies` looks the command up under its name and asks no
more of it.
-/

namespace MindMap

open CommandLine

/-! ### Copies -/

namespace Forest

theorem alike_renumber (document forest : Forest) (number : Nat) :
    forest.Alike (fun item copy => ∃ id, copy = { item with id })
      (document.renumber forest number).1 := by
  induction forest generalizing number with
  | nil => exact .nil
  | cons item children rest childrenHypothesis restHypothesis =>
    exact .cons ⟨_, rfl⟩ (childrenHypothesis _) (restHypothesis _)

theorem alike_shift (dx dy : Float) (forest : Forest) :
    forest.Alike (fun item copy => copy = { item with x := item.x + dx, y := item.y + dy })
      (forest.shift dx dy) := by
  induction forest with
  | nil => exact .nil
  | cons item children rest childrenHypothesis restHypothesis =>
    exact .cons rfl childrenHypothesis restHypothesis

end Forest

namespace Node

/-- The one subtree is a copy of the other: their shapes and the order of their nodes agree, and the
items are the same but for their ids and a distance that all of them were moved by. -/
def CopiedTo (copied copy : Node) : Prop :=
  ∃ dx dy : Float, copied.forest.Alike
    (fun item moved => ∃ id, moved = { item with id, x := item.x + dx, y := item.y + dy }) copy.forest

theorem copiedTo_renumber (copied : Node) (document : Forest) (number : Nat) (dx dy : Float) :
    copied.CopiedTo ((copied.renumber document number).1.shift dx dy) := by
  have renumbered : copied.forest.Alike (fun item copy => ∃ id, copy = { item with id })
      (copied.renumber document number).1.forest :=
    .cons ⟨_, rfl⟩ (document.alike_renumber copied.children _) .nil
  have moved := (copied.renumber document number).1.forest.alike_shift dx dy
  refine ⟨dx, dy, (renumbered.trans moved).mono ?_⟩
  rintro item moved ⟨_, ⟨id, rfl⟩, rfl⟩
  exact ⟨id, rfl⟩

end Node

/-! ### Runs that copy nothing -/

/-- A name names a command that may copy. -/
def Registry.CopiesBy {ε : Type} [Executor ε] (registry : Registry ε) (name : String) : Prop :=
  ∃ id, registry.MayMake name (.copyNode id)

/-- The operation copies, or has a command that may copy carried out. -/
def Operation.Copies : Operation → Prop
  | .call (.copyNode _) => True
  | @Operation.executeLine _ _ registry line =>
    ∃ invocation, Invocation.ofLine line = .ok invocation ∧ registry.CopiesBy invocation.name
  | @Operation.execute _ _ registry invocation => registry.CopiesBy invocation.name
  | @Operation.dispatch _ _ registry _ => registry.CopiesBy Gesture.moveCommand
  | _ => False

theorem Operation.copies_of_mayMake {operation : Operation} {id : String}
    (may : operation.MayMake (.copyNode id)) : operation.Copies := by
  cases operation with
  | call request =>
    cases may
    trivial
  | executeLine registry line =>
    obtain ⟨invocation, read, may⟩ := may
    exact ⟨invocation, read, id, may⟩
  | execute registry invocation => exact ⟨id, may⟩
  | dispatch registry gesture =>
    rcases may with asks | moves
    · cases asks
    · exact ⟨id, moves⟩
  | _ => cases may

namespace Session

/-- The context menu is opened and closed without an effect on the clipboard or on the number for
fresh ids. -/
theorem spares_openContextMenu (x y : Float) (id : Option String) :
    (openContextMenu x y id).Spares fun session => (session.nextId, session.clipboard) := by
  have selects : ∀ id, (selectNode id).Spares fun session => (session.nextId, session.clipboard) :=
    fun id => (spares_selectNode id).comp fun (nextId, clipboard, _) => (nextId, clipboard)
  have opens : (modify fun session => { session with menu := some ⟨x, y, id⟩ }.announce .panels :
      HostM Session PUnit).Spares fun session => (session.nextId, session.clipboard) :=
    .of_modify fun _ => rfl
  unfold openContextMenu
  split
  · exact .bind (selects id) fun _ => opens
  · exact opens

theorem spares_closeContextMenu :
    closeContextMenu.Spares fun session => (session.nextId, session.clipboard) :=
  .of_modify fun session => by split <;> rfl

/-- No request but to copy changes the clipboard. -/
theorem clipboard_request {request : Request} (notCopy : ∀ id, request ≠ .copyNode id) :
    (request.make : HostM Session (Option String)).Spares clipboard := by
  cases request with
  | copyNode id => exact absurd rfl (notCopy id)
  | openContextMenu x y id => exact ((spares_openContextMenu x y id).comp Prod.snd).silently
  | closeContextMenu => exact (spares_closeContextMenu.comp Prod.snd).silently
  | _ => exact (spares_request id).comp Prod.fst

theorem clipboard_perform (session : Session) {operation : Operation}
    (noCopy : ¬operation.Copies) : (session.perform operation).clipboard = session.clipboard := by
  rcases session.leads_or_spares operation with leads | ⟨-, apart, -⟩
  · refine spares_of_leads leads fun request may => clipboard_request ?_
    rintro id rfl
    exact noCopy (Operation.copies_of_mayMake may)
  · exact congrArg (·.2.1) apart

/-- Whatever is done without copying, the clipboard holds what it held. -/
theorem clipboard_run (session : Session) {operations : List Operation}
    (noCopies : ∀ operation ∈ operations, ¬operation.Copies) :
    (session.run operations).clipboard = session.clipboard := by
  induction operations generalizing session with
  | nil => rfl
  | cons operation rest inductionHypothesis =>
    have one := session.clipboard_perform (noCopies operation (.head _))
    have later := inductionHypothesis (session.perform operation)
      fun operation member => noCopies operation (.tail _ member)
    exact later.trans one

end Session

end MindMap
