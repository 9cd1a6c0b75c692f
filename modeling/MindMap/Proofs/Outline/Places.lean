import MindMap.Proofs.Motions.Repetition

/-!
# Places

A node has a place in its outline: it stands at an index among its siblings, below its parent or as a
root, and under one root. Each of these is looked up on its own, by its own search through the whole
outline. Where ids are distinct, the searches cannot meet different nodes, and so they tell of one
place: `Distinct.placesAgree`.

Ids that do not occur have no place, and that too is what all searches say. What stands beside, above
or below the place is not described here.
-/

namespace MindMap

namespace Forest

variable {forest : Forest} {node root : Node} {id : String} {above : Option Node}
  {left right : List Node}

/-! ### Indices of places -/

theorem Distinct.rootPosition?_eq (distinct : forest.Distinct) {index : Nat}
    (found : forest.root? index = some node) : forest.rootPosition? node.id = some index := by
  induction index generalizing forest with
  | zero =>
    cases forest with
    | nil => cases found
    | cons item children rest =>
      cases found
      rw [rootPosition?, if_pos rfl]
  | succ index inductionHypothesis =>
    cases forest with
    | nil => cases found
    | cons item children rest =>
      have foundBeside : rest.root? index = some node := found
      have beside : node.id ∈ rest.ids :=
        List.mem_map_of_mem (mem_nodes_of_mem_roots (mem_roots_of_root? foundBeside))
      have notFirst : item.id ≠ node.id := fun same => distinct.apart.notBeside (same ▸ beside)
      rw [rootPosition?, if_neg notFirst,
        inductionHypothesis distinct.apart.restDistinct foundBeside]
      rfl

theorem StandsBetween.root? (stands : forest.StandsBetween above left node right) :
    (forest.siblingsUnder above).root? left.length = some node := by
  rw [Forest.root?, stands.siblings]
  simp

theorem Distinct.siblingsUnder (distinct : forest.Distinct)
    (stands : forest.StandsBetween above left node right) :
    (forest.siblingsUnder above).Distinct := by
  cases above with
  | none => exact distinct
  | some parent => exact distinct.children (stands.parent parent rfl)

/-- Where ids are distinct, the siblings of a node and its index are those of its place. -/
theorem Distinct.siblings?_eq (distinct : forest.Distinct)
    (stands : forest.StandsBetween above left node right) :
    forest.siblings? node.id = some (forest.siblingsUnder above, left.length) := by
  have position := (distinct.siblingsUnder stands).rootPosition?_eq stands.root?
  unfold siblings?
  cases above with
  | none =>
    change forest.rootPosition? node.id = some left.length at position
    rw [position]
    rfl
  | some parent =>
    have inForest := stands.parent parent rfl
    have isChild : node ∈ parent.children.roots := mem_roots_of_root? stands.root?
    have notRoot : forest.rootPosition? node.id = none := by
      rw [← Option.not_isSome_iff_eq_none]
      exact Bool.not_eq_true _ ▸ distinct.hasRoot_eq_false_of_mem_children inForest
        (List.mem_map_of_mem (mem_nodes_of_mem_roots isChild))
    change parent.children.rootPosition? node.id = some left.length at position
    rw [notRoot, distinct.parent?_eq inForest isChild]
    dsimp only
    rw [position]
    rfl

theorem Distinct.rootIndex?_eq (distinct : forest.Distinct) {index : Nat}
    (found : forest.root? index = some root) (under : id ∈ root.ids) :
    forest.rootIndex? id = some index := by
  induction index generalizing forest with
  | zero =>
    cases forest with
    | nil => cases found
    | cons item children rest =>
      cases found
      rw [Node.ids_eq, List.mem_cons] at under
      have inside : (decide (item.id = id) || children.contains id) = true := by
        rw [Bool.or_eq_true, decide_eq_true_eq, contains_iff_mem_ids]
        exact under.imp_left Eq.symm
      rw [rootIndex?, if_pos inside]
  | succ index inductionHypothesis =>
    cases forest with
    | nil => cases found
    | cons item children rest =>
      have foundBeside : rest.root? index = some root := found
      have beside : id ∈ rest.ids :=
        ids_subset_of_mem_roots (mem_roots_of_root? foundBeside) id under
      have notFirst : item.id ≠ id := fun same => distinct.apart.notBeside (same ▸ beside)
      have notBelow : children.contains id = false := by
        rw [Bool.eq_false_iff, ne_eq, contains_iff_mem_ids]
        exact fun below => distinct.apart.differ id below beside
      rw [rootIndex?, inductionHypothesis distinct.apart.restDistinct foundBeside]
      simp [notFirst, notBelow]

/-! ### Every node has a place -/

theorem exists_standsBetween (inForest : node ∈ forest.nodes) :
    ∃ above left right, forest.StandsBetween above left node right := by
  obtain ⟨lineage, isLineage⟩ := exists_lineage inForest
  cases lineage with
  | nil =>
    obtain ⟨left, right, whole⟩ := List.append_of_mem (mem_roots_of_lineage isLineage)
    exact ⟨none, left, right, by simp, whole⟩
  | cons parent higher =>
    obtain ⟨parentLineage, isChild⟩ := parent_of_lineage isLineage
    obtain ⟨left, right, whole⟩ := List.append_of_mem isChild
    refine ⟨some parent, left, right, ?_, whole⟩
    rintro _ ⟨⟩
    exact mem_nodes_of_mem_lineages parentLineage

theorem exists_root_over (inForest : node ∈ forest.nodes) :
    ∃ before root behind, forest.roots = before ++ root :: behind ∧ node.id ∈ root.ids := by
  induction forest with
  | nil => cases inForest
  | cons item children rest childrenHypothesis restHypothesis =>
    simp only [nodes, List.mem_cons, List.mem_append] at inForest
    rcases inForest with rfl | inside | later
    · exact ⟨[], ⟨item, children⟩, rest.roots, rfl, by simp [Node.ids_eq]⟩
    · refine ⟨[], ⟨item, children⟩, rest.roots, rfl, ?_⟩
      rw [Node.ids_eq]
      exact List.mem_cons_of_mem _ (List.mem_map_of_mem inside)
    · obtain ⟨before, root, behind, whole, under⟩ := restHypothesis later
      exact ⟨⟨item, children⟩ :: before, root, behind, by rw [roots, whole]; rfl, under⟩

/-! ### What the searches find -/

/-- Where ids are distinct, the parent that is looked up is that of the place. -/
theorem Distinct.parent?_of_standsBetween (distinct : forest.Distinct)
    (stands : forest.StandsBetween above left node right) : forest.parent? node.id = above := by
  have isSibling : node ∈ (forest.siblingsUnder above).roots := mem_roots_of_root? stands.root?
  cases above with
  | none => exact distinct.parent?_eq_none_of_mem_roots isSibling
  | some parent => exact distinct.parent?_eq (stands.parent parent rfl) isSibling

theorem mem_ids_of_siblings? {siblings : Forest} {index : Nat}
    (found : forest.siblings? id = some (siblings, index)) : id ∈ forest.ids := by
  unfold siblings? at found
  split at found
  · next isRoot =>
    obtain ⟨root, member, rfl⟩ := exists_root_of_hasRoot (congrArg Option.isSome isRoot)
    exact List.mem_map_of_mem (mem_nodes_of_mem_roots member)
  · split at found
    · cases found
    · next parent parentFound =>
      exact mem_ids_of_mem_children (mem_nodes_of_parent? parentFound)
        (mem_children_of_parent? parentFound)

theorem exists_root?_of_rootIndex? {index : Nat} (found : forest.rootIndex? id = some index) :
    ∃ root, forest.root? index = some root ∧ root.contains id = true := by
  induction forest generalizing index with
  | nil => cases found
  | cons item children rest _ inductionHypothesis =>
    rw [rootIndex?] at found
    split at found
    · next inside =>
      cases found
      rw [Bool.or_eq_true, decide_eq_true_eq, contains_iff_mem_ids] at inside
      refine ⟨⟨item, children⟩, rfl, ?_⟩
      rw [Node.contains_iff_mem_ids, Node.ids_eq, List.mem_cons]
      exact inside.imp_left Eq.symm
    · obtain ⟨later, foundLater, rfl⟩ := Option.map_eq_some_iff.mp found
      exact inductionHypothesis foundLater

/-- The id of the parent of the node with an id. -/
def parentId? (forest : Forest) (id : String) : Option String := (forest.parent? id).map (·.id)

/-- Going up from a node ends at the root that the node is, or lies under. -/
theorem exists_root_of_lineage {upper : List Node} (lineage : (upper, node) ∈ forest.lineages) :
    ∃ root ∈ forest.roots, (node :: upper).getLast? = some root ∧ root.contains node.id = true := by
  induction upper generalizing node with
  | nil =>
    exact ⟨node, mem_roots_of_lineage lineage, rfl,
      Node.contains_iff_mem_ids.mpr (by simp [Node.ids_eq])⟩
  | cons parent upper inductionHypothesis =>
    obtain ⟨root, isRoot, last, -⟩ := inductionHypothesis (parent_of_lineage lineage).1
    have isAbove : root ∈ parent :: upper := List.mem_of_getLast? last
    refine ⟨root, isRoot, by rw [List.getLast?_cons_cons, last], ?_⟩
    rw [Node.contains_iff_mem_ids, Node.ids_eq]
    exact List.mem_cons_of_mem _ (List.mem_map_of_mem (mem_children_of_lineage lineage isAbove))

/-- All that is looked up of the place of an id describes one place, or none if the id does not
occur. -/
structure PlacesAgree (forest : Forest) (id : String) : Prop where
  occurs : (forest.siblings? id).isSome = true ↔ id ∈ forest.ids
  /-- The siblings are the children of the parent, or else the roots. -/
  siblings : ∀ siblings index, forest.siblings? id = some (siblings, index) →
    siblings = forest.siblingsUnder (forest.parent? id) ∧
      ∃ node, siblings.root? index = some node ∧ node.id = id
  parent : ∀ parent, forest.parent? id = some parent →
    parent ∈ forest.nodes ∧ ∃ child ∈ parent.children.roots, child.id = id
  noParent : forest.parent? id = none ↔ (∃ root ∈ forest.roots, root.id = id) ∨ id ∉ forest.ids
  /-- No other root has the id in its subtree than the one whose index is looked up. -/
  root : ∀ index, forest.rootIndex? id = some index ↔
    ∃ root, forest.root? index = some root ∧ root.contains id = true
  /-- Going up from parent to parent ends, and it ends at that root. -/
  upward : ∃ path, Chain forest.parentId? id path ∧ path.length ≤ forest.levels ∧
    (id ∈ forest.ids → ∃ index root, forest.rootIndex? id = some index ∧
      forest.root? index = some root ∧ (id :: path).getLast? = some root.id)

/-- Where ids are distinct, all look-ups of places agree. -/
theorem Distinct.placesAgree (distinct : forest.Distinct) (id : String) :
    forest.PlacesAgree id := by
  have rootOver : ∀ index, forest.rootIndex? id = some index ↔
      ∃ root, forest.root? index = some root ∧ root.contains id = true := by
    refine fun index => ⟨exists_root?_of_rootIndex?, ?_⟩
    rintro ⟨root, isRoot, under⟩
    exact distinct.rootIndex?_eq isRoot (Node.contains_iff_mem_ids.mp under)
  by_cases present : id ∈ forest.ids
  · obtain ⟨node, inForest, rfl⟩ := List.mem_map.mp present
    obtain ⟨above, left, right, stands⟩ := exists_standsBetween inForest
    obtain ⟨upper, lineage⟩ := exists_lineage inForest
    have place := distinct.siblings?_eq stands
    have parent := distinct.parent?_of_standsBetween stands
    constructor
    case occurs => rw [place]; exact iff_of_true rfl present
    case siblings =>
      intro siblings index found
      rw [place] at found
      cases found
      exact ⟨by rw [parent], node, stands.root?, rfl⟩
    case parent =>
      exact fun parent found => ⟨mem_nodes_of_parent? found, exists_child_of_parent? found⟩
    case noParent =>
      constructor
      · intro none
        obtain rfl : above = .none := parent.symm.trans none
        exact .inl ⟨node, mem_roots_of_root? stands.root?, rfl⟩
      · rintro (⟨root, isRoot, sameId⟩ | absent)
        · rw [← sameId]
          exact distinct.parent?_eq_none_of_mem_roots isRoot
        · exact absurd present absent
    case root => exact rootOver
    case upward =>
      have chain : Chain forest.parentId? node.id (upper.map (·.id)) :=
        (distinct.chain_of_lineage lineage).map (fun node : Node => node.id) fun _ => rfl
      have bound := length_lt_levels lineage
      obtain ⟨root, isRoot, last, under⟩ := exists_root_of_lineage lineage
      obtain ⟨index, found⟩ := List.mem_iff_getElem?.mp isRoot
      have isIndex := (rootOver index).mpr ⟨root, found, under⟩
      refine ⟨_, chain, ?_, fun _ => ⟨index, root, isIndex, found, ?_⟩⟩
      · rw [List.length_map]
        rw [List.length_nil] at bound
        omega
      · change ((node :: upper).map (·.id)).getLast? = some root.id
        rw [List.getLast?_map, last]
        rfl
  · have noParent := parent?_eq_none_of_not_mem present
    constructor
    case occurs =>
      refine iff_of_false (fun found => ?_) present
      obtain ⟨_, found⟩ := Option.isSome_iff_exists.mp found
      exact present (mem_ids_of_siblings? found)
    case siblings => exact fun _ _ found => absurd (mem_ids_of_siblings? found) present
    case parent =>
      intro parent found
      rw [noParent] at found
      cases found
    case noParent => exact iff_of_true noParent (.inr present)
    case root => exact rootOver
    case upward =>
      have ends : forest.parentId? id = none := by rw [parentId?, noParent]; rfl
      exact ⟨[], .ends ends, Nat.zero_le _, fun occurs => absurd occurs present⟩

/-- The leaf is the second child of the bough, two levels below the oak, which is the first root. -/
theorem places_agree_of_leaf :
    grove.Distinct ∧ grove.PlacesAgree "leaf" ∧
      grove.siblings? "leaf" = some (bough.children, 1) ∧
      grove.parent? "leaf" = some bough ∧ grove.rootIndex? "leaf" = some 0 :=
  ⟨distinct_grove, distinct_grove.placesAgree "leaf", rfl, rfl, rfl⟩

end Forest

end MindMap
