import MindMap.Proofs.Outline.Visibility

/-!
# Motions stay in sight

A motion that starts at a node in sight leads to a node that is in sight once the nodes are expanded
that the motion asks for. Up the tree and along siblings nothing needs to be expanded, and on the
plane only visible nodes are looked at. On the way down every collapsed node is met once; those are
the collapsed nodes above the target, since there are none above the start.
-/

namespace MindMap

namespace Forest

variable {forest : Forest} {node : Node} {p : Item → Prop} {id : String}

/-! ### Expanded nodes -/

/-- Expand the items whose ids are in a list, and change nothing else. -/
def expanded (forest : Forest) (ids : List String) : Forest :=
  forest.mapItems fun item => if item.id ∈ ids then { item with collapsed := false } else item

theorem ids_expanded (forest : Forest) (ids : List String) :
    (forest.expanded ids).ids = forest.ids :=
  ids_mapItems (fun item => by split <;> rfl) forest

theorem expanded_nil (forest : Forest) : forest.expanded [] = forest :=
  mapItems_of_forall fun _ _ => rfl

/-- The items of a list can be expanded one by one. -/
theorem expanded_cons (forest : Forest) (id : String) (ids : List String) :
    (forest.expanded [id]).expanded ids = forest.expanded (id :: ids) := by
  unfold expanded
  rw [mapItems_mapItems]
  congr 1
  funext item
  by_cases first : item.id = id <;> by_cases later : item.id ∈ ids <;> simp [first, later]

theorem hides_expanded {ids : List String} : (forest.expanded ids).Hides id ↔
    forest.Under (fun item => item.collapsed = true ∧ item.id ∉ ids) id := by
  have expands : ∀ item : Item,
      (if item.id ∈ ids then { item with collapsed := false } else item).collapsed = true ↔
        item.collapsed = true ∧ item.id ∉ ids := by
    intro item
    split
    · next listed => simp [listed]
    · next notListed => simp [notListed]
  rw [Hides, expanded, under_mapItems fun item => by split <;> rfl]
  exact ⟨fun under => under.mono fun item => (expands item).mp,
    fun under => under.mono fun item => (expands item).mpr⟩

/-- Expanding a node updates its item alone. -/
theorem Distinct.update?_expand (distinct : forest.Distinct) (present : id ∈ forest.ids) :
    forest.update? id (.setCollapsed false) = some (forest.expanded [id]) := by
  rw [distinct.update?_eq _ present, expanded]
  congr 2
  funext item
  simp only [List.mem_singleton]
  rfl

theorem find?_expanded (forest : Forest) (ids : List String) (id : String) :
    ((forest.expanded ids).find? id).map (·.collapsed) =
      (forest.find? id).map fun node => node.collapsed && decide (node.id ∉ ids) := by
  rw [expanded, find?_mapItems fun item => by split <;> rfl, Option.map_map]
  congr 1
  funext node
  dsimp only [Function.comp]
  split
  · next listed => simp [listed]
  · next notListed => simp [notListed]

/-! ### Ways down -/

/-- Where the ids of an outline are distinct, those of every subtree are. -/
theorem Distinct.nodup_ids (distinct : forest.Distinct) (inForest : node ∈ forest.nodes) :
    node.ids.Nodup := by
  induction forest with
  | nil => cases inForest
  | cons item children rest childrenHypothesis restHypothesis =>
    have apart := distinct.apart
    simp only [nodes, List.mem_cons, List.mem_append] at inForest
    rcases inForest with rfl | inside | later
    · rw [Node.ids_eq]
      exact List.nodup_cons.mpr ⟨apart.notBelow, apart.childrenDistinct⟩
    · exact childrenHypothesis apart.childrenDistinct inside
    · exact restHypothesis apart.restDistinct later

theorem Distinct.id_not_mem_children (distinct : forest.Distinct) (inForest : node ∈ forest.nodes) :
    node.id ∉ node.children.ids := by
  have nodup := distinct.nodup_ids inForest
  rw [Node.ids_eq, List.nodup_cons] at nodup
  exact nodup.1

theorem Distinct.children (distinct : forest.Distinct) (inForest : node ∈ forest.nodes) :
    node.children.Distinct := by
  have nodup := distinct.nodup_ids inForest
  rw [Node.ids_eq, List.nodup_cons] at nodup
  exact nodup.2

/-- A way down from a node to another, with the collapsed nodes that are left on it. -/
structure LeadsDown (forest : Forest) (node reached : Node) (expand : List String) : Prop where
  inForest : reached ∈ forest.nodes
  below : reached.id ∈ node.ids
  nodup : expand.Nodup
  /-- The way does not leave the subtree. -/
  inside : ∀ id ∈ expand, id ∈ node.ids
  above : ∀ id ∈ expand, ∃ above ∈ forest.nodes, above.id = id ∧ above.collapsed = true ∧
    reached.id ∈ above.children.ids
  /-- What is collapsed above the end and not to be expanded is above the start. -/
  above_start : ∀ p : Item → Prop, (∀ item, p item → item.collapsed = true ∧ item.id ∉ expand) →
    forest.Under p reached.id → forest.Under p node.id

theorem leadsDown_refl (inForest : node ∈ forest.nodes) : forest.LeadsDown node node [] where
  inForest := inForest
  below := by simp [Node.ids_eq]
  nodup := .nil
  inside := by simp
  above := by simp
  above_start _ _ under := under

theorem ids_subset_of_mem_roots {child : Node} (isRoot : child ∈ forest.roots) :
    ∀ id ∈ child.ids, id ∈ forest.ids := by
  intro id member
  exact mem_ids_of_mem_node (mem_nodes_of_mem_roots isRoot) member

theorem LeadsDown.cons (distinct : forest.Distinct) {child reached : Node} {expand : List String}
    (leads : forest.LeadsDown child reached expand) (inForest : node ∈ forest.nodes)
    (isChild : child ∈ node.children.roots) :
    forest.LeadsDown node reached (if node.collapsed then node.id :: expand else expand) := by
  have inChildren := ids_subset_of_mem_roots isChild
  have reachedBelow : reached.id ∈ node.children.ids := inChildren _ leads.below
  have expandBelow : ∀ id ∈ expand, id ∈ node.children.ids := fun id listed =>
    inChildren id (leads.inside id listed)
  have notAgain : node.id ∉ expand := fun listed =>
    distinct.id_not_mem_children inForest (expandBelow _ listed)
  constructor
  case inForest => exact leads.inForest
  case below => simp [Node.ids_eq, reachedBelow]
  case nodup =>
    split
    · exact List.nodup_cons.mpr ⟨notAgain, leads.nodup⟩
    · exact leads.nodup
  case inside =>
    intro id listed
    rw [Node.ids_eq, List.mem_cons]
    split at listed
    · exact (List.mem_cons.mp listed).imp_right (expandBelow id)
    · exact .inr (expandBelow id listed)
  case above =>
    intro id listed
    split at listed
    · next collapsed =>
      rcases List.mem_cons.mp listed with rfl | later
      · exact ⟨node, inForest, rfl, collapsed, reachedBelow⟩
      · exact leads.above id later
    · exact leads.above id listed
  case above_start =>
    intro p left under
    have leftLater : ∀ item, p item → item.collapsed = true ∧ item.id ∉ expand := by
      intro item holds
      refine ⟨(left item holds).1, fun listed => (left item holds).2 ?_⟩
      split
      · exact List.mem_cons_of_mem _ listed
      · exact listed
    have aboveChild := leads.above_start p leftLater under
    refine (distinct.under_child inForest isChild aboveChild).resolve_left fun holds => ?_
    obtain ⟨collapsed, notListed⟩ := left node.toItem holds
    rw [if_pos collapsed] at notListed
    exact notListed List.mem_cons_self

theorem Distinct.leadsDown_descend (distinct : forest.Distinct) (inForest : node ∈ forest.nodes)
    (count : Nat) : forest.LeadsDown node (node.descend count).1 (node.descend count).2 := by
  induction count generalizing node with
  | zero => exact leadsDown_refl inForest
  | succ count inductionHypothesis =>
    unfold Node.descend
    split
    · exact leadsDown_refl inForest
    · next child closest =>
      have isChild := Node.mem_of_closestChild? closest
      have childInForest := mem_nodes_of_mem_children inForest (mem_nodes_of_mem_roots isChild)
      exact (inductionHypothesis childInForest).cons distinct inForest isChild

/-! ### Motions -/

/-- The motion leads into sight: its target has no collapsed nodes above it but those to be
expanded, each of which is to be expanded once. -/
structure Reveals (forest : Forest) (motion : Motion) : Prop where
  shows : (forest.expanded motion.expand).Shows motion.target
  nodup : motion.expand.Nodup
  above : ∀ id ∈ motion.expand, ∃ above ∈ forest.nodes, above.id = id ∧ above.collapsed = true ∧
    motion.target ∈ above.children.ids

theorem reveals_to (inForest : node ∈ forest.nodes) (inSight : ¬forest.Hides node.id) :
    forest.Reveals (.to node) where
  shows := by
    change (forest.expanded []).Shows node.id
    rw [expanded_nil]
    exact ⟨List.mem_map_of_mem inForest, inSight⟩
  nodup := .nil
  above := by simp [Motion.to]

theorem LeadsDown.reveals {reached : Node} {expand : List String}
    (leads : forest.LeadsDown node reached expand) (inSight : ¬forest.Hides node.id) :
    forest.Reveals ⟨reached.id, expand⟩ where
  shows := by
    refine ⟨?_, fun hidden => inSight ?_⟩
    · rw [ids_expanded]
      exact List.mem_map_of_mem leads.inForest
    · have above := leads.above_start _ (fun _ holds => holds) (hides_expanded.mp hidden)
      exact above.mono fun _ => And.left
  nodup := leads.nodup
  above := leads.above

theorem Distinct.not_hides_climb (distinct : forest.Distinct) (inSight : ¬forest.Hides node.id)
    (count : Nat) : ¬forest.Hides (forest.climb node count).id := by
  induction count generalizing node with
  | zero => exact inSight
  | succ count inductionHypothesis =>
    unfold climb
    split
    · exact inSight
    · next parent found =>
      exact inductionHypothesis fun hidden => inSight (distinct.under_of_parent? found hidden)

variable {motion : Motion} {direction : Direction} {count : Nat}

theorem Distinct.reveals_of_parentMotion? (distinct : forest.Distinct)
    (inSight : ¬forest.Hides node.id) (found : forest.parentMotion? node count = some motion) :
    forest.Reveals motion := by
  obtain ⟨parent, parentFound, rfl⟩ := Option.map_eq_some_iff.mp found
  refine reveals_to (climb_mem_nodes (mem_nodes_of_parent? parentFound) _)
    (distinct.not_hides_climb (fun hidden => inSight ?_) _)
  exact distinct.under_of_parent? parentFound hidden

theorem Distinct.reveals_of_childMotion? (distinct : forest.Distinct)
    (inForest : node ∈ forest.nodes) (inSight : ¬forest.Hides node.id)
    (found : childMotion? node count = some motion) : forest.Reveals motion := by
  unfold childMotion? at found
  split at found
  · cases found
  · cases found
    exact (distinct.leadsDown_descend inForest count).reveals inSight

theorem Distinct.reveals_of_root? (distinct : forest.Distinct) {index : Nat}
    (found : (forest.root? index).map Motion.to = some motion) : forest.Reveals motion := by
  obtain ⟨root, rootFound, rfl⟩ := Option.map_eq_some_iff.mp found
  have isRoot := mem_roots_of_root? rootFound
  exact reveals_to (mem_nodes_of_mem_roots isRoot) (distinct.not_under_of_mem_roots isRoot)

theorem Distinct.reveals_of_siblingMotion? (distinct : forest.Distinct) {downward : Bool}
    (inSight : ¬forest.Hides node.id)
    (found : forest.siblingMotion? node downward count = some motion) : forest.Reveals motion := by
  unfold siblingMotion? at found
  obtain ⟨⟨siblings, index⟩, siblingsFound, found⟩ := Option.bind_eq_some_iff.mp found
  dsimp only at found
  split at found
  · obtain ⟨sibling, rootFound, rfl⟩ := Option.map_eq_some_iff.mp found
    have isSibling := mem_roots_of_root? rootFound
    exact reveals_to (mem_nodes_of_siblings? siblingsFound isSibling) fun hidden =>
      inSight (distinct.under_of_siblings? siblingsFound isSibling hidden)
  · obtain ⟨root, _, found⟩ := Option.bind_eq_some_iff.mp found
    split at found
    · exact distinct.reveals_of_root? found
    · split at found
      · cases found
      · exact distinct.reveals_of_root? found

theorem Distinct.reveals_of_spatialTarget? (distinct : forest.Distinct) {spatial : Spatial}
    {target : Node} (found : forest.spatialTarget? node direction spatial = some target) :
    forest.Reveals (.to target) := by
  obtain ⟨distance, member⟩ := mem_of_nearest found
  obtain ⟨candidate, visible, scored⟩ := List.mem_filterMap.mp member
  split at scored
  · cases scored
  · obtain ⟨_, _, same⟩ := Option.map_eq_some_iff.mp scored
    cases same
    have shows : forest.Shows target.id := distinct.shows_iff_mem_visible.mpr ⟨target, visible, rfl⟩
    exact reveals_to (mem_nodes_of_mem_visible visible) shows.2

/-- From a node in sight, every motion leads into sight. -/
theorem Distinct.reveals_of_navigate? (distinct : forest.Distinct) (inSight : ¬forest.Hides id)
    {spatial : Spatial} (found : forest.navigate? id direction count spatial = some motion) :
    forest.Reveals motion := by
  unfold navigate? at found
  obtain ⟨node, nodeFound, found⟩ := Option.bind_eq_some_iff.mp found
  obtain ⟨inForest, sameId⟩ := mem_nodes_of_find? nodeFound
  rw [← sameId] at inSight
  split at found
  · next treeMotion treeFound =>
    cases found
    cases direction with
    | left => exact distinct.reveals_of_parentMotion? inSight treeFound
    | right => exact distinct.reveals_of_childMotion? inForest inSight treeFound
    | up => exact distinct.reveals_of_siblingMotion? inSight treeFound
    | down => exact distinct.reveals_of_siblingMotion? inSight treeFound
  · obtain ⟨target, targetFound, rfl⟩ := Option.map_eq_some_iff.mp found
    exact distinct.reveals_of_spatialTarget? targetFound

end Forest

end MindMap
