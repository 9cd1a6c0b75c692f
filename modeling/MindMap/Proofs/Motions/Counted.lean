import MindMap.Proofs.Outline.Places

/-!
# Counted motions

A motion with a count is the single step repeated, as far as the outline goes. Where the tree offers
a step, where that leads is told by the place of the node alone: by its lineage, its closest
children, its siblings or the roots beside its own. The plane decides only where none of these offers
anything.

Where on the plane a motion leads is not described here.
-/

namespace MindMap

namespace Forest

variable {forest : Forest} {node root : Node} {id : String} {above : Option Node}
  {left right before behind : List Node}

/-! ### Neighbouring roots -/

theorem root?_of_split (whole : forest.roots = before ++ root :: behind) :
    forest.root? before.length = some root := by
  rw [root?, whole]
  simp

theorem root?_succ_of_split (whole : forest.roots = before ++ root :: behind) :
    forest.root? (before.length + 1) = behind.head? := by
  rw [root?, whole, List.getElem?_append_right (Nat.le_succ _)]
  simp [List.head?_eq_getElem?]

theorem root?_pred_of_split (whole : forest.roots = before ++ root :: behind)
    (more : before.length ≠ 0) : forest.root? (before.length - 1) = before.getLast? := by
  rw [List.getLast?_eq_getElem?, root?, whole, List.getElem?_append_left (by omega)]

/-! ### Motion along siblings -/

/-- No subtraction made in clamping an index goes below zero, and no sum beyond the last index. -/
structure ClampsWithin (length index count : Nat) : Prop where
  last : 1 ≤ length
  room : index ≤ length - 1
  down : index + min count (length - 1 - index) ≤ length - 1
  up : min count index ≤ index

theorem clampsWithin {length index : Nat} (inList : index < length) (count : Nat) :
    ClampsWithin length index count := by
  constructor <;> omega

theorem clampedIndex_down {length index : Nat} (inList : index < length) (count : Nat) :
    clampedIndex true length index count = min (index + count) (length - 1) := by
  rw [clampedIndex, if_pos rfl]
  omega

theorem clampedIndex_up (length index count : Nat) :
    clampedIndex false length index count = index - count := by
  rw [clampedIndex, if_neg Bool.false_ne_true]
  omega

/-- Motion down leads to the sibling with the clamped index if that is another one, and else to the
root behind. -/
theorem Distinct.siblingMotion?_down (distinct : forest.Distinct)
    (stands : forest.StandsBetween above left node right)
    (whole : forest.roots = before ++ root :: behind) (under : node.id ∈ root.ids) (count : Nat) :
    forest.siblingMotion? node true count =
      let siblings := left ++ node :: right
      let target := min (left.length + count) (siblings.length - 1)
      if target ≠ left.length then siblings[target]?.map .to else behind.head?.map .to := by
  have inList : left.length < (left ++ node :: right).length := by simp
  have place := distinct.rootIndex?_eq (root?_of_split whole) under
  simp only [siblingMotion?, distinct.siblings?_eq stands, place, Option.bind_eq_bind,
    Option.bind_some, stands.siblings, clampedIndex_down inList, if_true,
    root?_succ_of_split whole]
  rw [root?, stands.siblings]

/-- Motion up leads to the sibling with the clamped index if that is another one, and else to the
root before. -/
theorem Distinct.siblingMotion?_up (distinct : forest.Distinct)
    (stands : forest.StandsBetween above left node right)
    (whole : forest.roots = before ++ root :: behind) (under : node.id ∈ root.ids) (count : Nat) :
    forest.siblingMotion? node false count =
      let target := left.length - count
      if target ≠ left.length then (left ++ node :: right)[target]?.map .to
      else before.getLast?.map .to := by
  have neighbour : (if before.length = 0 then none
      else (forest.root? (before.length - 1)).map Motion.to) = before.getLast?.map .to := by
    split
    · next empty =>
      rw [List.eq_nil_of_length_eq_zero empty]
      rfl
    · next more => rw [root?_pred_of_split whole more]
  have place := distinct.rootIndex?_eq (root?_of_split whole) under
  simp only [siblingMotion?, distinct.siblings?_eq stands, place, Option.bind_eq_bind,
    Option.bind_some, clampedIndex_up, Bool.false_eq_true, if_false, neighbour]
  rw [root?, stands.siblings]

/-! ### Counted motions -/

/-- Where the plane leads in a direction, if anywhere. -/
def onPlane? (forest : Forest) (node : Node) (direction : Direction) (spatial : Spatial) :
    Option Motion :=
  (forest.spatialTarget? node direction spatial).map .to

/-- The tree comes before the plane, and a count of zero counts as one. -/
theorem Distinct.navigate?_eq (distinct : forest.Distinct) (inForest : node ∈ forest.nodes)
    (direction : Direction) (count : Nat) (spatial : Spatial) :
    forest.navigate? node.id direction count spatial =
      (forest.treeMotion? node direction (max count 1)).or
        (forest.onPlane? node direction spatial) := by
  rw [navigate?, distinct.find?_eq inForest, Option.bind_eq_bind, Option.bind_some, onPlane?]
  cases forest.treeMotion? node direction (max count 1) <;> rfl

/-- A motion up or down from the node at an index of its siblings: to the sibling at the target
index if that is another one, else to the neighbouring root, and only without one by the plane. -/
structure MovesAlong (siblings : List Node) (index target : Nat) (neighbour : Option Node)
    (fallback outcome : Option Motion) : Prop where
  sibling : target ≠ index →
    ∃ sibling, siblings[target]? = some sibling ∧ outcome = some (.to sibling)
  root : target = index → ∀ root, neighbour = some root → outcome = some (.to root)
  plane : target = index → neighbour = none → outcome = fallback

theorem MovesAlong.of {siblings : List Node} {index target : Nat} {neighbour : Option Node}
    {fallback : Option Motion} (inList : target < siblings.length) :
    MovesAlong siblings index target neighbour fallback
      ((if target ≠ index then siblings[target]?.map .to else neighbour.map .to).or fallback) := by
  constructor
  case sibling =>
    intro differs
    exact ⟨siblings[target], List.getElem?_eq_getElem inList, by simp [differs, inList]⟩
  case root =>
    rintro rfl root rfl
    simp
  case plane =>
    rintro rfl rfl
    simp

/-- Where the motions from a node lead that are made `max count 1` times. -/
structure CountedMotions (forest : Forest) (node : Node) (count : Nat) (spatial : Spatial) :
    Prop where
  /-- The node has a lineage, siblings and a root over it, of which the other fields speak. -/
  lineage : ∃ above, (above, node) ∈ forest.lineages
  siblings : ∃ above left right, forest.StandsBetween above left node right
  roots : ∃ before root behind, forest.roots = before ++ root :: behind ∧ node.id ∈ root.ids
  left : ∀ above, (above, node) ∈ forest.lineages → above ≠ [] →
    ∃ ancestor, above[min (max count 1) above.length - 1]? = some ancestor ∧
      forest.navigate? node.id .left count spatial = some (.to ancestor)
  leftOfRoot : ([], node) ∈ forest.lineages →
    forest.navigate? node.id .left count spatial = forest.onPlane? node .left spatial
  right : node.hasChildren = true → ∃ path, Chain Node.closestChild? node path ∧
    let steps := min (max count 1) path.length
    ∃ reached, (node :: path)[steps]? = some reached ∧
      forest.navigate? node.id .right count spatial = some ⟨reached.id,
        (((node :: path).take steps).filter (·.collapsed)).map (·.id)⟩
  rightOfLeaf : node.hasChildren = false →
    forest.navigate? node.id .right count spatial = forest.onPlane? node .right spatial
  down : ∀ above left right before root behind, forest.StandsBetween above left node right →
    forest.roots = before ++ root :: behind → node.id ∈ root.ids →
    let siblings := left ++ node :: right
    MovesAlong siblings left.length (min (left.length + max count 1) (siblings.length - 1))
      behind.head? (forest.onPlane? node .down spatial)
      (forest.navigate? node.id .down count spatial)
  up : ∀ above left right before root behind, forest.StandsBetween above left node right →
    forest.roots = before ++ root :: behind → node.id ∈ root.ids →
    MovesAlong (left ++ node :: right) left.length (left.length - max count 1) before.getLast?
      (forest.onPlane? node .up spatial) (forest.navigate? node.id .up count spatial)
  /-- The indices that are computed are in range, whatever the count. -/
  indices : ∀ siblings index, forest.siblings? node.id = some (siblings, index) →
    ClampsWithin siblings.roots.length index (max count 1)
  rootIndices : ∀ index, forest.rootIndex? node.id = some index → index + 1 ≤ forest.roots.length
  /-- The loops that repeat a step end after as many turns as there are levels, or before. -/
  turnsUp : ∀ parent, forest.parent? node.id = some parent →
    forest.climb parent (max count 1 - 1) =
        (repeated (fun node => forest.parent? node.id) parent (max count 1 - 1)).1 ∧
      (repeated (fun node => forest.parent? node.id) parent (max count 1 - 1)).2 ≤ forest.levels
  turnsDown : (node.descend (max count 1)).1 =
      (repeated Node.closestChild? node (max count 1)).1 ∧
    (repeated Node.closestChild? node (max count 1)).2 ≤ forest.levels

/-- A counted motion is the single step repeated as far as it goes, and no step is made in vain more
than once. -/
theorem Distinct.countedMotions (distinct : forest.Distinct) (inForest : node ∈ forest.nodes)
    (count : Nat) (spatial : Spatial) : forest.CountedMotions node count spatial := by
  have positive : 0 < max count 1 := by omega
  have navigate := fun direction => distinct.navigate?_eq inForest direction count spatial
  obtain ⟨path, chain, shorter⟩ := exists_chain_of_closest inForest
  constructor
  case lineage => exact exists_lineage inForest
  case siblings => exact exists_standsBetween inForest
  case roots => exact exists_root_over inForest
  case left =>
    intro above lineage notRoot
    have inRange : min (max count 1) above.length - 1 < above.length := by
      have := List.length_pos_iff.mpr notRoot
      omega
    refine ⟨above[min (max count 1) above.length - 1], List.getElem?_eq_getElem inRange, ?_⟩
    rw [navigate, treeMotion?, distinct.parentMotion?_eq lineage positive,
      List.getElem?_eq_getElem inRange]
    rfl
  case leftOfRoot =>
    intro lineage
    rw [navigate, treeMotion?, distinct.parentMotion?_eq lineage positive]
    rfl
  case right =>
    intro branches
    obtain ⟨reached, isReached, motion⟩ := childMotion?_eq chain branches (max count 1)
    refine ⟨path, chain, reached, isReached, ?_⟩
    rw [navigate, treeMotion?, motion]
    rfl
  case rightOfLeaf =>
    intro leaf
    rw [navigate, treeMotion?, childMotion?_of_leaf leaf]
    rfl
  case down =>
    intro above left right before root behind stands whole under siblings
    rw [navigate, treeMotion?, distinct.siblingMotion?_down stands whole under]
    exact .of (by simp only [siblings, List.length_append, List.length_cons]; omega)
  case up =>
    intro above left right before root behind stands whole under
    rw [navigate, treeMotion?, distinct.siblingMotion?_up stands whole under]
    exact .of (by rw [List.length_append, List.length_cons]; omega)
  case indices =>
    intro siblings index found
    obtain ⟨above, left, right, stands⟩ := exists_standsBetween inForest
    rw [distinct.siblings?_eq stands] at found
    cases found
    exact clampsWithin (by simp [stands.siblings]) _
  case rootIndices =>
    intro index found
    obtain ⟨before, root, behind, whole, under⟩ := exists_root_over inForest
    rw [distinct.rootIndex?_eq (root?_of_split whole) under] at found
    cases found
    simp [whole]
  case turnsUp =>
    intro parent found
    refine ⟨climb_eq_repeated .., ?_⟩
    obtain ⟨above, lineage⟩ := exists_lineage (mem_nodes_of_parent? found)
    rw [(distinct.chain_of_lineage lineage).turns]
    have bound := length_lt_levels lineage
    rw [List.length_nil] at bound
    omega
  case turnsDown =>
    rw [Node.descend_eq chain, chain.turns]
    exact ⟨rfl, by omega⟩

/-- From the last leaf, five steps to the left end at the oak, and five steps up at the twig. -/
theorem counted_motions_from_last_leaf :
    grove.Distinct ∧ lastLeaf ∈ grove.nodes ∧ grove.CountedMotions lastLeaf 5 .standard ∧
      grove.navigate? "leaf" .left 5 .standard = some ⟨"oak", []⟩ ∧
      grove.navigate? "leaf" .up 5 .standard = some ⟨"twig", []⟩ := by
  have inGrove : lastLeaf ∈ grove.nodes := by simp [grove, bough, ofRoots, nodes, lastLeaf]
  exact ⟨distinct_grove, inGrove, distinct_grove.countedMotions inGrove 5 .standard, rfl, rfl⟩

end Forest

end MindMap
