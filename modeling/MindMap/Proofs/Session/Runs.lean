import MindMap.Proofs.Command.Calls
import MindMap.Proofs.Session.Settling

/-!
# Runs of operations

Everything that can be asked of a session from outside is an `Operation`: a call of the host
interface, a change of mode or of a panel, the end of an edit, a command line, an invocation or a
gesture. A session is `Reachable` if a run of operations leads to it from a document that was
accepted, whatever becomes of each.

Reachable sessions are consistent, and from one operation to the next their history makes moves of
the four kinds alone. The registry may be any, with commands that do whatever executors do, and may
differ from operation to operation.
-/

namespace MindMap

open CommandLine

/-- What can be asked of a session. -/
inductive Operation : Type 1 where
  | call (request : Request)
  | setMode (mode : Mode)
  | finishEdit (text : Option String)
  | setLinkList (isOpen : Bool)
  | setAttachmentList (isOpen : Bool)
  | setSpatial (spatial : Spatial)
  | markSaved
  | executeLine {ε : Type} [Executor ε] (registry : Registry ε) (line : String)
  | execute {ε : Type} [Executor ε] (registry : Registry ε) (invocation : Invocation)
  | dispatch {ε : Type} [Executor ε] (registry : Registry ε) (gesture : Gesture)

namespace Session

variable {session : Session}

/-- The session after an operation, whether it succeeds or not. -/
def perform (session : Session) : Operation → Session
  | .call request => request.make.after session
  | .setMode mode => session.setMode mode
  | .finishEdit text => (Session.finishEdit text).after session
  | .setLinkList isOpen => session.setLinkList isOpen
  | .setAttachmentList isOpen => session.setAttachmentList isOpen
  | .setSpatial spatial => session.setSpatial spatial
  | .markSaved => session.markSaved
  | @Operation.executeLine _ _ registry line => (registry.executeLine line session).2
  | @Operation.execute _ _ registry invocation => (registry.execute invocation session).2
  | @Operation.dispatch _ _ registry gesture => (gesture.dispatch registry session).2

/-- The session after operations, one after another. -/
def run (session : Session) (operations : List Operation) : Session :=
  operations.foldl perform session

theorem run_append (session : Session) (first second : List Operation) :
    session.run (first ++ second) = (session.run first).run second :=
  List.foldl_append

/-- A run of operations leads here from a session on a document that was accepted. -/
def Reachable (session : Session) : Prop :=
  ∃ document opened operations, create document = .ok opened ∧ opened.run operations = session

/-! ### Moves in the history -/

/-- The sessions that moves in the history lead to. -/
inductive Evolves (start : Session) : Session → Prop where
  | refl : Evolves start start
  | move {middle after : Session} (prior : Evolves start middle) {move : HistoryMove}
      (moves : middle.Moves after move) : Evolves start after

namespace Evolves

theorem stay {after : Session} (history : after.history = session.history) :
    session.Evolves after := by
  have moves : session.Moves after .stay := history
  exact .move .refl moves

theorem trans {middle after : Session} (first : session.Evolves middle)
    (second : middle.Evolves after) : session.Evolves after := by
  induction second with
  | refl => exact first
  | move _ moves inductionHypothesis => exact .move inductionHypothesis moves

end Evolves

/-! ### Every operation -/

/-- The session reached is consistent, and moves in the history lead to it. -/
def Keeps (before after : Session) : Prop := after.Consistent ∧ before.Evolves after

theorem Settles.keeps {α : Type} {step : HostM Session α} {move : HistoryMove}
    (settles : Settles step move session) (consistent : session.Consistent) :
    session.Keeps (step.after session) := by
  unfold HostM.after
  rcases settles with ⟨failure, run⟩ | ⟨value, after, run, settled, moves⟩
  · rw [run]
    exact ⟨consistent, .refl⟩
  · rw [run]
    exact ⟨settled, .move .refl moves⟩

theorem Consistent.keeps_of_leads (consistent : session.Consistent) {after : Session}
    (leads : Host.Leads session after) : session.Keeps after := by
  have preserved : ∀ (middle : Session) (request : Request),
      session.Keeps middle → session.Keeps (request.make.after middle) := by
    rintro middle request ⟨kept, evolves⟩
    have next := (settles_call kept request).keeps kept
    exact ⟨next.1, evolves.trans next.2⟩
  exact leads.invariant (fun middle request _ => preserved middle request) ⟨consistent, .refl⟩

/-- What every allowed call of a consistent session preserves holds wherever allowed calls lead to.
-/
theorem Consistent.invariant_of_leads (consistent : session.Consistent)
    {allowed : Request → Prop} {property : Session → Prop}
    (preserved : ∀ (middle : Session) (request : Request), middle.Consistent → allowed request →
      property middle → property (request.make.after middle))
    {after : Session} (leads : Host.LeadsBy allowed session after) (initially : property session) :
    property after := by
  have both : ∀ (middle : Session) (request : Request), allowed request →
      middle.Consistent ∧ property middle →
      (request.make.after middle).Consistent ∧ property (request.make.after middle) := by
    rintro middle request may ⟨kept, holds⟩
    exact ⟨((settles_call kept request).keeps kept).1, preserved middle request kept may holds⟩
  exact (leads.invariant both ⟨consistent, initially⟩).2

theorem Consistent.keeps_perform (consistent : session.Consistent) (operation : Operation) :
    session.Keeps (session.perform operation) := by
  cases operation with
  | call request => exact (settles_call consistent request).keeps consistent
  | setMode mode => exact ⟨consistent.setMode mode, .stay (session.history_setMode mode)⟩
  | finishEdit text =>
    obtain ⟨after, run, settled⟩ := settles_finishEdit consistent text
    exact Settles.keeps (.inr ⟨(), after, run, settled⟩) consistent
  | setLinkList isOpen =>
    simp only [perform, setLinkList]
    split
    · exact ⟨consistent, .refl⟩
    · exact ⟨consistent.congr rfl rfl rfl rfl, .stay rfl⟩
  | setAttachmentList isOpen =>
    simp only [perform, setAttachmentList]
    split
    · exact ⟨consistent, .refl⟩
    · exact ⟨consistent.congr rfl rfl rfl rfl, .stay rfl⟩
  | setSpatial spatial => exact ⟨consistent.congr rfl rfl rfl rfl, .stay rfl⟩
  | markSaved => exact ⟨consistent.congr rfl rfl rfl rfl, .stay rfl⟩
  | executeLine registry line =>
    exact consistent.keeps_of_leads (registry.executeLine_leads line session)
  | execute registry invocation =>
    exact consistent.keeps_of_leads (registry.execute_leads invocation session)
  | dispatch registry gesture =>
    exact consistent.keeps_of_leads (gesture.dispatch_leads registry session)

theorem Consistent.keeps_run (consistent : session.Consistent) (operations : List Operation) :
    session.Keeps (session.run operations) := by
  induction operations generalizing session with
  | nil => exact ⟨consistent, .refl⟩
  | cons operation rest inductionHypothesis =>
    have one := consistent.keeps_perform operation
    have others := inductionHypothesis one.1
    exact ⟨others.1, one.2.trans others.2⟩

/-! ### Reachable sessions -/

theorem create_eq_ok_iff {document : Forest} :
    create document = .ok session ↔ document.Distinct ∧ session = ofForest document := by
  have bind : create document = document.checkDistinct.map ofForest := rfl
  rw [bind]
  constructor
  · intro created
    cases checked : document.checkDistinct with
    | error error => simp [checked, Except.map] at created
    | ok accepted =>
      obtain ⟨distinct, rfl⟩ := Forest.checkDistinct_eq_ok_iff.mp checked
      refine ⟨distinct, ?_⟩
      simpa [checked, Except.map, eq_comm] using created
  · rintro ⟨distinct, rfl⟩
    rw [Forest.checkDistinct_eq_ok_iff.mpr ⟨distinct, rfl⟩]
    rfl

theorem consistent_create {document : Forest} (created : create document = .ok session) :
    session.Consistent := by
  obtain ⟨distinct, rfl⟩ := create_eq_ok_iff.mp created
  constructor
  · simpa [documents, ofForest] using distinct
  all_goals simp [ofForest]

theorem Reachable.consistent (reachable : session.Reachable) : session.Consistent := by
  obtain ⟨document, opened, operations, created, rfl⟩ := reachable
  exact ((consistent_create created).keeps_run operations).1

/-- Whatever is done next, the session stays reachable. -/
theorem Reachable.run (reachable : session.Reachable) (operations : List Operation) :
    (session.run operations).Reachable := by
  obtain ⟨document, opened, earlier, created, rfl⟩ := reachable
  exact ⟨document, opened, earlier ++ operations, created, run_append opened earlier operations⟩

/-- After any run of operations, no document of the history has an id twice, the selection is a node
of the document, and an open edit is of a node of the document and in insert mode. -/
theorem Reachable.refers_to_nodes (reachable : session.Reachable) :
    (∀ document ∈ session.past ++ session.document :: session.future, document.ids.Nodup) ∧
    (∀ id, session.selection = some id → session.document.contains id) ∧
    ∀ edit, session.editing = some edit →
      session.document.contains edit.id ∧ session.mode = .insert := by
  have consistent := reachable.consistent
  refine ⟨consistent.distinct, fun id selected => ?_, fun edit isOpen => ⟨?_, ?_⟩⟩
  · exact Forest.contains_iff_mem_ids.mpr (consistent.selection id selected)
  · exact Forest.contains_iff_mem_ids.mpr (consistent.editing edit isOpen)
  · exact consistent.mode edit isOpen

/-- A document of one node. -/
def sapling : Forest := (Item.leaf (.plain "trunk" "Trunk")).forest

/-- A session in which a new node has just been added and is being edited. -/
def sprouting : Session := (ofForest sapling).run [.call (.addChildNode "trunk" none true)]

theorem reachable_sprouting : sprouting.Reachable := ⟨sapling, _, _, rfl, rfl⟩

theorem refers_to_nodes_sprouting :
    sprouting.editing = some ⟨"node-1", .atEnd⟩ ∧ sprouting.document.contains "node-1" ∧
      sprouting.mode = .insert :=
  ⟨rfl, reachable_sprouting.refers_to_nodes.2.2 ⟨"node-1", .atEnd⟩ rfl⟩

end Session

end MindMap
