import MindMap.Navigation
import MindMap.Proofs.Outline.Ids

/-!
# Motions lead to nodes

Every motion leads to a node of the outline, and everything that it asks to have expanded is a node
of the outline as well. So carrying a motion out cannot fail for want of a node, whatever the
direction, the count and the places of nodes; not even distances that cannot be compared matter.
-/

namespace MindMap

theorem mem_of_foldl_nearer {candidates : List (Node × Float)} {best : Option (Node × Float)}
    {found : Node × Float} (result : candidates.foldl nearer best = some found) :
    best = some found ∨ found ∈ candidates := by
  induction candidates generalizing best with
  | nil => exact .inl result
  | cons candidate rest inductionHypothesis =>
    rcases inductionHypothesis result with chosen | later
    · have either : nearer best candidate = best ∨ nearer best candidate = some candidate := by
        unfold nearer
        split
        · split
          · exact .inl rfl
          · exact .inr rfl
        · exact .inr rfl
      rcases either with same | new
      · exact .inl (same.symm.trans chosen)
      · obtain rfl : candidate = found := Option.some.inj (new.symm.trans chosen)
        exact .inr List.mem_cons_self
    · exact .inr (List.mem_cons_of_mem _ later)

theorem mem_of_nearest {candidates : List (Node × Float)} {node : Node}
    (found : nearest candidates = some node) : ∃ distance, (node, distance) ∈ candidates := by
  obtain ⟨⟨node, distance⟩, best, rfl⟩ := Option.map_eq_some_iff.mp found
  rcases mem_of_foldl_nearer best with impossible | member
  · exact nomatch impossible
  · exact ⟨distance, member⟩

theorem Node.mem_of_closestChild? {node child : Node} (closest : node.closestChild? = some child) :
    child ∈ node.children.roots := by
  obtain ⟨distance, member⟩ := mem_of_nearest closest
  obtain ⟨other, isRoot, same⟩ := List.mem_map.mp member
  obtain ⟨rfl, _⟩ := Prod.mk.inj same
  exact isRoot

namespace Forest

variable {forest : Forest} {node : Node}

/-! ### Nodes near a node -/

/-- What lies below a node of a forest lies in the forest. -/
theorem mem_nodes_of_mem_children {below : Node} (inForest : node ∈ forest.nodes)
    (inChildren : below ∈ node.children.nodes) : below ∈ forest.nodes := by
  induction forest with
  | nil => simp [nodes] at inForest
  | cons item children rest childrenHypothesis restHypothesis =>
    simp only [nodes, List.mem_cons, List.mem_append] at inForest ⊢
    rcases inForest with rfl | inside | later
    · exact .inr (.inl inChildren)
    · exact .inr (.inl (childrenHypothesis inside))
    · exact .inr (.inr (restHypothesis later))

theorem mem_nodes_of_parent? {id : String} {parent : Node}
    (found : forest.parent? id = some parent) : parent ∈ forest.nodes := by
  induction forest with
  | nil => simp [parent?] at found
  | cons item children rest childrenHypothesis restHypothesis =>
    rw [parent?] at found
    simp only [nodes, List.mem_cons, List.mem_append]
    split at found
    · exact .inl (Option.some.inj found).symm
    · rcases Option.or_eq_some_iff.mp found with inside | ⟨_, later⟩
      · exact .inr (.inl (childrenHypothesis inside))
      · exact .inr (.inr (restHypothesis later))

theorem mem_nodes_of_mem_visible (visible : node ∈ forest.visible) : node ∈ forest.nodes := by
  induction forest with
  | nil => simp [Forest.visible] at visible
  | cons item children rest childrenHypothesis restHypothesis =>
    simp only [Forest.visible, nodes, List.mem_cons, List.mem_append] at visible ⊢
    rcases visible with same | inside | later
    · exact .inl same
    · split at inside
      · simp at inside
      · exact .inr (.inl (childrenHypothesis inside))
    · exact .inr (.inr (restHypothesis later))

theorem mem_nodes_of_siblings? {id : String} {siblings : Forest} {index : Nat}
    (found : forest.siblings? id = some (siblings, index)) (isRoot : node ∈ siblings.roots) :
    node ∈ forest.nodes := by
  unfold siblings? at found
  split at found
  · obtain ⟨rfl, _⟩ := Prod.mk.inj (Option.some.inj found)
    exact mem_nodes_of_mem_roots isRoot
  · split at found
    · exact nomatch found
    · next parent parentFound =>
      obtain ⟨_, _, same⟩ := Option.map_eq_some_iff.mp found
      obtain ⟨rfl, _⟩ := Prod.mk.inj same
      exact mem_nodes_of_mem_children (mem_nodes_of_parent? parentFound)
        (mem_nodes_of_mem_roots isRoot)

theorem mem_roots_of_root? {index : Nat} (found : forest.root? index = some node) :
    node ∈ forest.roots :=
  List.mem_of_getElem? found

/-! ### Repeated motions -/

theorem climb_mem_nodes (member : node ∈ forest.nodes) (count : Nat) :
    forest.climb node count ∈ forest.nodes := by
  induction count generalizing node with
  | zero => exact member
  | succ count inductionHypothesis =>
    unfold climb
    split
    · exact member
    · next parent found => exact inductionHypothesis (mem_nodes_of_parent? found)

theorem descend_mem_nodes (member : node ∈ forest.nodes) (count : Nat) :
    (node.descend count).1 ∈ forest.nodes ∧ ∀ id ∈ (node.descend count).2, id ∈ forest.ids := by
  induction count generalizing node with
  | zero => exact ⟨member, by simp [Node.descend]⟩
  | succ count inductionHypothesis =>
    unfold Node.descend
    split
    · exact ⟨member, by simp⟩
    · next child closest =>
      have isChild := mem_nodes_of_mem_roots (Node.mem_of_closestChild? closest)
      have childMember : child ∈ forest.nodes := mem_nodes_of_mem_children member isChild
      obtain ⟨reached, expand⟩ := inductionHypothesis childMember
      refine ⟨reached, fun id asked => ?_⟩
      dsimp only at asked
      split at asked
      · rcases List.mem_cons.mp asked with rfl | later
        · exact List.mem_map_of_mem member
        · exact expand id later
      · exact expand id asked

/-! ### Motions -/

/-- Everything that a motion names is a node of the forest. -/
structure Holds (forest : Forest) (motion : Motion) : Prop where
  target : motion.target ∈ forest.ids
  expand : ∀ id ∈ motion.expand, id ∈ forest.ids

theorem holds_to (member : node ∈ forest.nodes) : forest.Holds (.to node) where
  target := List.mem_map_of_mem member
  expand := by simp [Motion.to]

theorem holds_of_parentMotion? {count : Nat} {motion : Motion}
    (found : forest.parentMotion? node count = some motion) : forest.Holds motion := by
  obtain ⟨parent, parentFound, rfl⟩ := Option.map_eq_some_iff.mp found
  exact holds_to (climb_mem_nodes (mem_nodes_of_parent? parentFound) _)

theorem holds_of_childMotion? (member : node ∈ forest.nodes) {count : Nat} {motion : Motion}
    (found : childMotion? node count = some motion) : forest.Holds motion := by
  unfold childMotion? at found
  split at found
  · exact nomatch found
  · obtain rfl := Option.some.inj found
    obtain ⟨reached, expand⟩ := descend_mem_nodes member count
    exact ⟨List.mem_map_of_mem reached, expand⟩

theorem holds_of_root? {index : Nat} {motion : Motion}
    (found : (forest.root? index).map Motion.to = some motion) : forest.Holds motion := by
  obtain ⟨root, rootFound, rfl⟩ := Option.map_eq_some_iff.mp found
  exact holds_to (mem_nodes_of_mem_roots (mem_roots_of_root? rootFound))

theorem holds_of_siblingMotion? {downward : Bool} {count : Nat} {motion : Motion}
    (found : forest.siblingMotion? node downward count = some motion) : forest.Holds motion := by
  unfold siblingMotion? at found
  obtain ⟨⟨siblings, index⟩, siblingsFound, found⟩ := Option.bind_eq_some_iff.mp found
  dsimp only at found
  split at found
  · obtain ⟨sibling, rootFound, rfl⟩ := Option.map_eq_some_iff.mp found
    exact holds_to (mem_nodes_of_siblings? siblingsFound (mem_roots_of_root? rootFound))
  · obtain ⟨root, _, found⟩ := Option.bind_eq_some_iff.mp found
    split at found
    · exact holds_of_root? found
    · split at found
      · exact nomatch found
      · exact holds_of_root? found

theorem holds_of_treeMotion? (member : node ∈ forest.nodes) {direction : Direction} {count : Nat}
    {motion : Motion} (found : forest.treeMotion? node direction count = some motion) :
    forest.Holds motion := by
  cases direction with
  | left => exact holds_of_parentMotion? found
  | right => exact holds_of_childMotion? member found
  | up => exact holds_of_siblingMotion? found
  | down => exact holds_of_siblingMotion? found

theorem mem_nodes_of_spatialTarget? {direction : Direction} {spatial : Spatial} {target : Node}
    (found : forest.spatialTarget? node direction spatial = some target) :
    target ∈ forest.nodes := by
  obtain ⟨distance, member⟩ := mem_of_nearest found
  obtain ⟨candidate, visible, scored⟩ := List.mem_filterMap.mp member
  split at scored
  · exact nomatch scored
  · obtain ⟨_, _, same⟩ := Option.map_eq_some_iff.mp scored
    obtain ⟨rfl, _⟩ := Prod.mk.inj same
    exact mem_nodes_of_mem_visible visible

/-- A motion leads to a node of the forest, through nodes of the forest. -/
theorem holds_of_navigate? {id : String} {direction : Direction} {count : Nat} {spatial : Spatial}
    {motion : Motion} (found : forest.navigate? id direction count spatial = some motion) :
    forest.Holds motion := by
  unfold navigate? at found
  obtain ⟨node, nodeFound, found⟩ := Option.bind_eq_some_iff.mp found
  split at found
  · next treeMotion treeFound =>
    obtain rfl := Option.some.inj found
    exact holds_of_treeMotion? (mem_nodes_of_find? nodeFound).1 treeFound
  · obtain ⟨target, targetFound, rfl⟩ := Option.map_eq_some_iff.mp found
    exact holds_to (mem_nodes_of_spatialTarget? targetFound)

end Forest

end MindMap
