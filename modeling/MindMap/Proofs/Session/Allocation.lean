import MindMap.Proofs.Session.Clipboard

/-!
# Allocation of ids

An id is allocated by a search that goes on for as long as it meets taken ids. It is told here without a
bound, turn by turn: `Finds`. It ends within one turn more than the document has nodes, since that many
numbers cannot all be taken, and every number it looks at is used up.

A request allocates the ids of the nodes that it adds, one after another, and nothing else moves the
number that searches start from. Undoing an addition takes its nodes away and not the number, so no id is
allocated twice on any way through a session, although the document may well have lost it:
`allocates_fresh_ids`. Numbers have no limit here; a search from a number looks at none beyond it by more
than the document has nodes.
-/

namespace MindMap

namespace Session

variable {session : Session}

/-! ### The search, turn by turn -/

/-- One turn of the search: the id of the next number if it is free. Either way, the number is used up.
-/
def tryId (session : Session) : Option String × Session :=
  let id := numberedId session.nextId
  (if session.document.contains id then none else some id, session.countFrom (session.nextId + 1))

/-- The search for an id takes a number of turns, and ends with an id and a session. -/
inductive Finds : Session → Nat → String × Session → Prop where
  | free {session after : Session} {id : String} (tried : session.tryId = (some id, after)) :
      Finds session 1 (id, after)
  | taken {session after : Session} {turns : Nat} {found : String × Session}
      (tried : session.tryId = (none, after)) (rest : Finds after turns found) :
      Finds session (turns + 1) found

/-- The search has one outcome, if any. -/
theorem Finds.unique {turns others : Nat} {found other : String × Session}
    (finds : session.Finds turns found) (again : session.Finds others other) :
    others = turns ∧ other = found := by
  induction finds generalizing others with
  | free tried =>
    cases again with
    | free triedAgain =>
      rw [tried] at triedAgain
      cases triedAgain
      exact ⟨rfl, rfl⟩
    | taken triedAgain _ =>
      rw [tried] at triedAgain
      cases triedAgain
  | taken tried _ inductionHypothesis =>
    cases again with
    | free triedAgain =>
      rw [tried] at triedAgain
      cases triedAgain
    | taken triedAgain rest =>
      rw [tried] at triedAgain
      cases triedAgain
      obtain ⟨sameTurns, same⟩ := inductionHypothesis rest
      exact ⟨congrArg (· + 1) sameTurns, same⟩

/-- Past numbers that are taken, the search comes to the first free one. -/
theorem finds_of_taken (session : Session) (number count : Nat)
    (taken : ∀ passed, number ≤ passed → passed < number + count →
      numberedId passed ∈ session.document.ids)
    (free : numberedId (number + count) ∉ session.document.ids) :
    (session.countFrom number).Finds (count + 1)
      (numberedId (number + count), session.countFrom (number + count + 1)) := by
  induction count generalizing number with
  | zero =>
    refine .free ?_
    have isFree : ¬session.document.contains (numberedId number) :=
      fun contained => free (Forest.contains_iff_mem_ids.mp contained)
    simp [tryId, countFrom, isFree]
  | succ count inductionHypothesis =>
    have shift : number + 1 + count = number + (count + 1) := by omega
    have here : session.document.contains (numberedId number) :=
      Forest.contains_iff_mem_ids.mpr (taken number (Nat.le_refl _) (by omega))
    have later := inductionHypothesis (number + 1)
      (fun passed after before => taken passed (by omega) (by omega)) (by rwa [shift])
    rw [shift] at later
    refine .taken ?_ later
    simp [tryId, countFrom, here]

/-- The search ends with the id that is allocated. -/
theorem finds_allocateId (session : Session) :
    ∃ turns, session.Finds turns session.allocateId ∧
      session.document.freeNumber session.nextId + 1 = session.nextId + turns := by
  obtain ⟨count, reached⟩ := Nat.exists_eq_add_of_le (session.document.le_freeNumber session.nextId)
  have free := session.document.freeNumber_free session.nextId
  have finds := session.finds_of_taken session.nextId count
    (fun passed after before =>
      Forest.taken_of_lt_freeNumberWithin after (Nat.lt_of_lt_of_eq before reached.symm))
    (reached ▸ free)
  rw [← reached] at finds
  exact ⟨count + 1, finds, congrArg (· + 1) reached⟩

/-! ### Several allocations -/

/-- Allocate ids one after another. -/
def allocateIds (session : Session) : Nat → List String × Session
  | 0 => ([], session)
  | count + 1 =>
    let (id, next) := session.allocateId
    let (ids, last) := next.allocateIds count
    (id :: ids, last)

theorem allocateIds_succ (session : Session) (count : Nat) :
    session.allocateIds (count + 1) =
      (session.allocateId.1 :: (session.allocateId.2.allocateIds count).1,
        (session.allocateId.2.allocateIds count).2) := rfl

theorem allocateIds_add (session : Session) (early late : Nat) :
    session.allocateIds (early + late) =
      ((session.allocateIds early).1 ++ ((session.allocateIds early).2.allocateIds late).1,
        ((session.allocateIds early).2.allocateIds late).2) := by
  induction early generalizing session with
  | zero => simp [allocateIds]
  | succ early inductionHypothesis =>
    rw [Nat.succ_add, allocateIds_succ, allocateIds_succ, inductionHypothesis]
    rfl

theorem nextId_le_allocateIds (session : Session) (count : Nat) :
    session.nextId ≤ (session.allocateIds count).2.nextId := by
  induction count generalizing session with
  | zero => exact Nat.le_refl _
  | succ count inductionHypothesis =>
    have found := session.document.le_freeNumber session.nextId
    have later : session.document.freeNumber session.nextId + 1 ≤
      (session.allocateIds (count + 1)).2.nextId := inductionHypothesis session.allocateId.2
    omega

/-- The numbers of the ids grow, from the number that the first search starts from to the one that is
left. -/
theorem numbered_allocateIds (session : Session) (count : Nat) :
    session.document.Numbered (session.allocateIds count).1 session.nextId
      (session.allocateIds count).2.nextId := by
  induction count generalizing session with
  | zero => exact .nil _ _
  | succ count inductionHypothesis =>
    exact .cons session.nextId (inductionHypothesis session.allocateId.2)
      (session.allocateId.2.nextId_le_allocateIds count)

/-- A forest is renumbered by as many allocations as it has nodes, in pre-order. -/
theorem allocateIds_size (session : Session) (forest : Forest) :
    session.allocateIds forest.size =
      ((session.document.renumber forest session.nextId).1.ids,
        session.countFrom (session.document.renumber forest session.nextId).2) := by
  induction forest generalizing session with
  | nil => rfl
  | cons item children rest childrenHypothesis restHypothesis =>
    rw [Forest.size, Nat.add_assoc, Nat.add_comm, allocateIds_succ, allocateIds_add,
      childrenHypothesis, restHypothesis]
    simp [Forest.renumber, allocateId, countFrom]

/-- So is a subtree. -/
theorem allocateIds_node (session : Session) (node : Node) :
    session.allocateIds node.size =
      ((node.renumber session.document session.nextId).1.ids,
        session.countFrom (node.renumber session.document session.nextId).2) := by
  rw [Node.size, Nat.add_comm, allocateIds_succ, allocateIds_size]
  simp [Node.renumber, Node.ids_eq, allocateId, countFrom]

end Session

/-! ### Allocations of a request -/

/-- How many ids a request allocates. It looks for the node that it adds to before it allocates any. -/
def Request.wants (request : Request) (session : Session) : Nat :=
  match request with
  | addChildNode id .. | addSiblingNode id .. => if session.document.contains id then 1 else 0
  | pasteNode id =>
    if session.document.contains id then (session.clipboard.map (·.size)).getD 0 else 0
  | _ => 0

/-- The ids that a request allocates, and the session that this leaves. -/
def Session.allocateFor (session : Session) (request : Request) : List String × Session :=
  session.allocateIds (request.wants session)

/-- The allocations of a request are what it does to the number for fresh ids, and the ids are those of
the subtree that it adds. -/
structure Request.Allocates (request : Request) (session : Session) : Prop where
  counts : (request.make.after session).nextId = (session.allocateFor request).2.nextId
  adds : (session.allocateFor request).1 ≠ [] →
    ∃ node, node.ids = (session.allocateFor request).1 ∧
      session.document.Gains node (request.make.after session).document

namespace Session

variable {session : Session} {request : Request}

theorem allocates_of_wants_nothing (nothing : request.wants session = 0)
    (kept : (request.make.after session).nextId = session.nextId) : request.Allocates session := by
  have allocated : session.allocateFor request = ([], session) := by
    rw [allocateFor, nothing]
    rfl
  constructor
  · rw [kept, allocated]
  · rw [allocated]
    exact fun some => absurd rfl some

/-- A subtree with the allocated ids has been added. -/
theorem allocates_of_grown {node : Node} {nextId : Nat} {larger : Forest} {startEditing : Bool}
    (allocated : session.allocateFor request = (node.ids, session.countFrom nextId))
    (gains : session.document.Gains node larger)
    (after : request.make.after session = session.grown nextId larger node.id startEditing) :
    request.Allocates session := by
  have counted := congrArg Prod.fst (session.apart_grown nextId larger node.id startEditing)
  constructor
  · rw [after, allocated]
    exact counted
  · rw [after, allocated, document_grown]
    exact fun _ => ⟨node, rfl, gains⟩

theorem spares_nextId (noAddition : ¬request.AddsNodes) :
    (request.make : HostM Session (Option String)).Spares nextId := by
  cases request with
  | copyNode id =>
    exact HostM.Spares.silently (.bind (spares_findNode id) fun _ => .of_modify fun _ => rfl)
  | openContextMenu x y id => exact ((spares_openContextMenu x y id).comp Prod.fst).silently
  | closeContextMenu => exact (spares_closeContextMenu.comp Prod.fst).silently
  | _ => exact (spares_apart noAddition id).comp Prod.fst

theorem AddsBy.after_of_missing {α : Type} {insertion : Node → Edit Unit} {step : HostM Session α}
    {value : String → α} {anchor : String} {startEditing : Bool}
    (addsBy : AddsBy insertion step value anchor startEditing session)
    (missing : session.document.find? anchor = none) : step.after session = session := by
  rcases addsBy with ⟨_, _, _, present, _⟩ | ⟨-, run⟩
  · exact absurd present (Forest.find?_eq_none_iff.mp missing)
  · exact HostM.after_of_error run

/-- A leaf takes one allocation. -/
theorem allocates_of_leaf {node : Node} {larger : Forest} {startEditing : Bool}
    (one : request.wants session = 1) (ids : node.ids = [session.allocateId.1])
    (gains : session.document.Gains node larger)
    (after : request.make.after session =
      session.grown session.allocateId.2.nextId larger node.id startEditing) :
    request.Allocates session := by
  refine allocates_of_grown ?_ gains after
  rw [allocateFor, one, ids]
  rfl

theorem allocates_pasteNode (session : Session) (id : String) :
    (Request.pasteNode id).Allocates session := by
  have after : (Request.pasteNode id).make.after session = (pasteNode id).after session :=
    HostM.after_silently _ session
  cases clipboard : session.clipboard with
  | none =>
    refine allocates_of_wants_nothing (by simp [Request.wants, clipboard]) ?_
    rw [after]
    exact congrArg nextId (HostM.after_of_error (run_pasteNode_of_empty clipboard id))
  | some copied =>
    cases found : session.document.find? id with
    | none =>
      refine allocates_of_wants_nothing (by simp [Request.wants, Forest.contains, found]) ?_
      rw [after]
      exact congrArg nextId ((addsBy_pasteNode clipboard id).after_of_missing found)
    | some parent =>
      obtain ⟨larger, inserted, run⟩ := run_pasteNode_of_found clipboard found
      refine allocates_of_grown ?_ (gains_of_run_insertShown inserted)
        (after.trans (HostM.after_of_ok run))
      have wanted : (Request.pasteNode id).wants session = copied.size := by
        simp [Request.wants, Forest.contains, found, clipboard]
      rw [allocateFor, wanted, allocateIds_node, pasted, Node.ids_shift]

/-- Every request allocates the ids of what it adds. -/
theorem allocates (session : Session) (request : Request) : request.Allocates session := by
  cases request with
  | addChildNode id text startEditing =>
    cases found : session.document.find? id with
    | none =>
      have addsBy := addsBy_addChildNode id text startEditing session
      exact allocates_of_wants_nothing (by simp [Request.wants, Forest.contains, found])
        (congrArg nextId (addsBy.after_of_missing found))
    | some parent =>
      obtain ⟨node, larger, ids, inserted, run⟩ :=
        run_addChildNode_of_found found text startEditing
      exact allocates_of_leaf (by simp [Request.wants, Forest.contains, found]) ids
        (gains_of_run_insertShown inserted) (HostM.after_of_ok run)
  | addSiblingNode id text startEditing =>
    cases found : session.document.find? id with
    | none =>
      have addsBy := addsBy_addSiblingNode id text startEditing session
      exact allocates_of_wants_nothing (by simp [Request.wants, Forest.contains, found])
        (congrArg nextId (addsBy.after_of_missing found))
    | some anchor =>
      obtain ⟨node, larger, ids, inserted, run⟩ :=
        run_addSiblingNode_of_found found text startEditing
      exact allocates_of_leaf (by simp [Request.wants, Forest.contains, found]) ids
        (Edit.gains_of_run_insert inserted) (HostM.after_of_ok run)
  | pasteNode id => exact allocates_pasteNode session id
  | _ => exact allocates_of_wants_nothing rfl (spares_nextId id session)

/-! ### Allocations of a run -/

/-- The ids that have been allocated on the way from one session to another, in order. Requests may be
made in any order, be it by commands, by gestures or one by one; operations that make no request
allocate nothing. -/
inductive Allocated (start : Session) : List String → Session → Prop where
  | refl : Allocated start [] start
  | call {ids : List String} {session : Session} (prior : Allocated start ids session)
      (request : Request) :
      Allocated start (ids ++ (session.allocateFor request).1) (request.make.after session)
  | aside {ids : List String} {session : Session} (prior : Allocated start ids session)
      {operation : Operation} (noRequest : ∀ request, ¬operation.MayMake request) :
      Allocated start ids (session.perform operation)

theorem Allocated.of_leads {start after : Session} {ids : List String} {allowed : Request → Prop}
    (prior : start.Allocated ids session) (leads : Host.LeadsBy allowed session after) :
    ∃ more, start.Allocated more after := by
  induction leads with
  | refl => exact ⟨ids, prior⟩
  | call _ _ inductionHypothesis =>
    obtain ⟨more, allocated⟩ := inductionHypothesis
    exact ⟨_, allocated.call _⟩

theorem Allocated.perform {start : Session} {ids : List String}
    (prior : start.Allocated ids session) (operation : Operation) :
    ∃ more, start.Allocated more (session.perform operation) := by
  rcases session.leads_or_spares operation with leads | ⟨noRequest, -⟩
  · exact prior.of_leads leads
  · exact ⟨ids, prior.aside noRequest⟩

/-- Every run goes by requests and by operations that make none. -/
theorem Allocated.run {start : Session} {ids : List String} (prior : start.Allocated ids session)
    (operations : List Operation) : ∃ more, start.Allocated more (session.run operations) := by
  induction operations generalizing session ids with
  | nil => exact ⟨ids, prior⟩
  | cons operation rest inductionHypothesis =>
    obtain ⟨more, allocated⟩ := prior.perform operation
    exact inductionHypothesis allocated

theorem nextId_perform (session : Session) {operation : Operation}
    (noRequest : ∀ request, ¬operation.MayMake request) :
    (session.perform operation).nextId = session.nextId := by
  rcases session.leads_or_spares operation with leads | ⟨-, apart, -⟩
  · exact spares_of_leads leads fun request may => absurd may (noRequest request)
  · exact congrArg Prod.fst apart

/-- The numbers of the ids grow along the way, whatever becomes of the nodes that they were allocated
for. -/
theorem Allocated.numbered {start : Session} {ids : List String}
    (allocated : start.Allocated ids session) :
    start.nextId ≤ session.nextId ∧ Forest.nil.Numbered ids start.nextId session.nextId := by
  induction allocated with
  | refl => exact ⟨Nat.le_refl _, .nil _ _⟩
  | call prior request inductionHypothesis =>
    next ids middle =>
    obtain ⟨grown, numbered⟩ := inductionHypothesis
    have more := middle.nextId_le_allocateIds (request.wants middle)
    rw [(middle.allocates request).counts]
    refine ⟨Nat.le_trans grown more, ?_⟩
    exact numbered.append (middle.numbered_allocateIds (request.wants middle)).grows grown more
  | aside _ noRequest inductionHypothesis =>
    rwa [nextId_perform _ noRequest]

/-- No id is allocated twice. -/
theorem Allocated.nodup {start : Session} {ids : List String}
    (allocated : start.Allocated ids session) : (ids ++ [session.allocateId.1]).Nodup := by
  obtain ⟨grown, numbered⟩ := allocated.numbered
  have next := (session.numbered_allocateIds 1).grows
  exact (numbered.append next grown (session.nextId_le_allocateIds 1)).fresh.1

/-- What allocation promises of a session. -/
structure AllocatesFreshIds (session : Session) : Prop where
  /-- The search ends, with the id of the number that is used up last and is the first one free. -/
  ends : ∃ turns number, session.Finds turns session.allocateId ∧
    turns ≤ session.document.size + 1 ∧ number + 1 = session.nextId + turns ∧
    session.nextId ≤ number ∧ session.document.contains (numberedId number) = false ∧
    session.allocateId = (numberedId number, session.countFrom (number + 1))
  /-- It ends in no other way. -/
  only : ∀ turns found, session.Finds turns found → found = session.allocateId
  /-- Requests allocate the ids of the nodes that they add. -/
  requests : ∀ request : Request, request.Allocates session
  /-- Every run allocates some ids. -/
  runs : ∀ operations, ∃ ids, session.Allocated ids (session.run operations)
  /-- These are distinct, and so is the one that is allocated next. -/
  distinct : ∀ ids after, session.Allocated ids after → (ids ++ [after.allocateId.1]).Nodup

/-- From any session on, the search for an id ends in time with one that is free, and no two ids that
are allocated are the same. -/
theorem allocates_fresh_ids (session : Session) : session.AllocatesFreshIds where
  ends := by
    obtain ⟨turns, finds, used⟩ := session.finds_allocateId
    have first := session.document.le_freeNumber session.nextId
    have last := session.document.freeNumber_le session.nextId
    have free : session.document.contains
        (numberedId (session.document.freeNumber session.nextId)) = false := by
      rw [Bool.eq_false_iff]
      exact fun contained => session.document.freeNumber_free session.nextId
        (Forest.contains_iff_mem_ids.mp contained)
    exact ⟨turns, session.document.freeNumber session.nextId, finds, by omega, used, first, free, rfl⟩
  only := by
    intro turns found finds
    obtain ⟨count, allocated, -⟩ := session.finds_allocateId
    exact (allocated.unique finds).2
  requests := session.allocates
  runs := Allocated.refl.run
  distinct := fun _ _ allocated => allocated.nodup

/-- An addition that is undone has used up its id. -/
example :
    ((ofForest sapling).run [.call (.addChildNode "trunk" none false), .call .undo,
      .call (.addChildNode "trunk" none false)]).document.ids = ["trunk", "node-2"] := rfl

end Session

end MindMap
