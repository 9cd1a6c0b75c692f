import MindMap.Proofs.Motions.Counted

/-!
# Motions lead elsewhere

A motion never ends where it starts. Up the tree and down it, what is reached lies above the start or
below it; among siblings and roots it has another index; and on the plane the start is passed over.
Together with `Distinct.reveals_of_navigate?`, every motion from a visible node leads to another node,
which is visible once what the motion asks for is expanded.
-/

namespace MindMap

namespace Forest

variable {forest : Forest} {node root : Node} {motion : Motion} {count : Nat}
  {direction : Direction} {spatial : Spatial}

theorem Distinct.id_ne_of_below (distinct : forest.Distinct) (inForest : node ∈ forest.nodes)
    {below : Node} (isBelow : below ∈ node.children.nodes) : below.id ≠ node.id := by
  intro same
  have again : below.id ∈ node.children.ids := List.mem_map_of_mem isBelow
  rw [same] at again
  exact distinct.id_not_mem_children inForest again

/-- Roots at two indices have two ids. -/
theorem Distinct.id_ne_of_root? (distinct : forest.Distinct) {index place : Nat}
    (found : forest.root? index = some root) (start : forest.root? place = some node)
    (differs : index ≠ place) : root.id ≠ node.id := by
  intro same
  have position := distinct.rootPosition?_eq found
  rw [same, distinct.rootPosition?_eq start] at position
  exact differs (Option.some.inj position).symm

/-- The root at another index than that over a node is another node. -/
theorem Distinct.id_ne_of_rootIndex? (distinct : forest.Distinct) {index place : Nat}
    (found : forest.root? index = some root) (below : forest.rootIndex? node.id = some place)
    (differs : index ≠ place) : root.id ≠ node.id := by
  intro same
  have inRoot : root.id ∈ root.ids := by simp [Node.ids_eq]
  rw [← same, distinct.rootIndex?_eq found inRoot] at below
  exact differs (Option.some.inj below)

theorem Distinct.leaves_of_parentMotion? (distinct : forest.Distinct)
    (inForest : node ∈ forest.nodes) (positive : 0 < count)
    (found : forest.parentMotion? node count = some motion) : motion.target ≠ node.id := by
  obtain ⟨above, lineage⟩ := exists_lineage inForest
  rw [distinct.parentMotion?_eq lineage positive] at found
  obtain ⟨ancestor, reached, rfl⟩ := Option.map_eq_some_iff.mp found
  have isAbove := List.mem_of_getElem? reached
  have differs := distinct.id_ne_of_below (mem_nodes_of_mem_lineage lineage isAbove)
    (mem_children_of_lineage lineage isAbove)
  exact differs.symm

theorem Distinct.leaves_of_childMotion? (distinct : forest.Distinct)
    (inForest : node ∈ forest.nodes) (positive : 0 < count)
    (found : childMotion? node count = some motion) : motion.target ≠ node.id := by
  cases branches : node.hasChildren with
  | false =>
    rw [childMotion?_of_leaf branches] at found
    cases found
  | true =>
    obtain ⟨path, chain, -⟩ := exists_chain_of_closest inForest
    obtain ⟨reached, isReached, same⟩ := childMotion?_eq chain branches count
    rw [found] at same
    cases same
    cases chain with
    | ends last =>
      rw [Node.closestChild?_eq_none_iff.mp last] at branches
      cases branches
    | @goes _ child path leads onward =>
      -- At least one step is made, so what is reached is on the chain and not its start.
      obtain ⟨steps, someSteps⟩ : ∃ steps, min count (child :: path).length = steps + 1 :=
        Nat.exists_eq_add_one_of_ne_zero (by simp; omega)
      rw [someSteps, List.getElem?_cons_succ] at isReached
      exact distinct.id_ne_of_below inForest
        (Node.mem_children_of_chain (.goes leads onward) (List.mem_of_getElem? isReached))

theorem Distinct.leaves_of_siblingMotion? (distinct : forest.Distinct)
    (inForest : node ∈ forest.nodes) {downward : Bool}
    (found : forest.siblingMotion? node downward count = some motion) :
    motion.target ≠ node.id := by
  obtain ⟨above, left, right, stands⟩ := exists_standsBetween inForest
  obtain ⟨before, top, behind, whole, under⟩ := exists_root_over inForest
  have place := distinct.rootIndex?_eq (root?_of_split whole) under
  unfold siblingMotion? at found
  rw [distinct.siblings?_eq stands, place] at found
  simp only [Option.bind_eq_bind, Option.bind_some] at found
  split at found
  · next differs =>
    obtain ⟨sibling, reached, rfl⟩ := Option.map_eq_some_iff.mp found
    exact (distinct.siblingsUnder stands).id_ne_of_root? reached stands.root? differs
  · split at found
    · obtain ⟨root, reached, rfl⟩ := Option.map_eq_some_iff.mp found
      exact distinct.id_ne_of_rootIndex? reached place (Nat.succ_ne_self _)
    · split at found
      · cases found
      · next notFirst =>
        obtain ⟨root, reached, rfl⟩ := Option.map_eq_some_iff.mp found
        exact distinct.id_ne_of_rootIndex? reached place (by omega)

theorem id_ne_of_spatialTarget? {target : Node}
    (found : forest.spatialTarget? node direction spatial = some target) :
    target.id ≠ node.id := by
  obtain ⟨distance, member⟩ := mem_of_nearest found
  obtain ⟨candidate, -, scored⟩ := List.mem_filterMap.mp member
  split at scored
  · cases scored
  · next differs =>
    obtain ⟨_, _, same⟩ := Option.map_eq_some_iff.mp scored
    cases same
    exact differs

/-- Every motion ends at another node than it starts at. -/
theorem Distinct.leaves_of_navigate? (distinct : forest.Distinct) (inForest : node ∈ forest.nodes)
    (found : forest.navigate? node.id direction count spatial = some motion) :
    motion.target ≠ node.id := by
  have positive : 0 < max count 1 := by omega
  rw [distinct.navigate?_eq inForest] at found
  rcases Option.or_eq_some_iff.mp found with inTree | ⟨-, onPlane⟩
  · cases direction with
    | left => exact distinct.leaves_of_parentMotion? inForest positive inTree
    | right => exact distinct.leaves_of_childMotion? inForest positive inTree
    | up => exact distinct.leaves_of_siblingMotion? inForest inTree
    | down => exact distinct.leaves_of_siblingMotion? inForest inTree
  · obtain ⟨target, targetFound, rfl⟩ := Option.map_eq_some_iff.mp onPlane
    exact id_ne_of_spatialTarget? targetFound

/-- A motion from a node arrives at another, which expanding the nodes that the motion names brings
into sight. Each of these is collapsed, and none is named twice. -/
structure Arrives (forest : Forest) (node : Node) (motion : Motion) : Prop where
  target : ∃ target, forest.find? motion.target = some target
  elsewhere : motion.target ≠ node.id
  nodup : motion.expand.Nodup
  collapsed : ∀ id ∈ motion.expand, ∃ node, forest.find? id = some node ∧ node.collapsed = true
  visible : ∃ target ∈ (forest.expanded motion.expand).visible, target.id = motion.target

/-- Motions from visible nodes arrive. -/
theorem Distinct.arrives_of_navigate? (distinct : forest.Distinct) (visible : node ∈ forest.visible)
    (found : forest.navigate? node.id direction count spatial = some motion) :
    forest.Arrives node motion := by
  have inForest := mem_nodes_of_mem_visible visible
  have inSight : ¬forest.Hides node.id :=
    (distinct.shows_iff_mem_visible.mpr ⟨node, visible, rfl⟩).2
  have reveals := distinct.reveals_of_navigate? inSight found
  constructor
  case target => exact exists_find?_of_mem_ids (holds_of_navigate? found).target
  case elsewhere => exact distinct.leaves_of_navigate? inForest found
  case nodup => exact reveals.nodup
  case collapsed =>
    intro id listed
    obtain ⟨above, aboveInForest, rfl, collapsed, -⟩ := reveals.above id listed
    exact ⟨above, distinct.find?_eq aboveInForest, collapsed⟩
  case visible =>
    have stillDistinct : (forest.expanded motion.expand).Distinct := by
      rw [Distinct, ids_expanded]
      exact distinct
    exact stillDistinct.shows_iff_mem_visible.mp reveals.shows

/-- A folded branch with a leaf. -/
def foldedBranch : Node :=
  ⟨{ Item.plain "branch" "Branch" with collapsed := true }, lastLeaf.forest⟩

/-- A motion out of a folded branch, further than it goes, arrives at the leaf. -/
theorem arrives_at_hidden_leaf :
    foldedBranch.forest.Distinct ∧ foldedBranch ∈ foldedBranch.forest.visible ∧
      foldedBranch.forest.navigate? foldedBranch.id .right 3 .standard =
        some ⟨"leaf", ["branch"]⟩ ∧
      foldedBranch.forest.Arrives foldedBranch ⟨"leaf", ["branch"]⟩ := by
  have distinct : foldedBranch.forest.Distinct := by decide
  have visible : foldedBranch ∈ foldedBranch.forest.visible := List.mem_cons_self
  have found : foldedBranch.forest.navigate? foldedBranch.id .right 3 .standard =
      some ⟨"leaf", ["branch"]⟩ := rfl
  exact ⟨distinct, visible, found, distinct.arrives_of_navigate? visible found⟩

end Forest

end MindMap
