import MindMap.Proofs.Navigation

/-!
# Ancestors

A node is in sight if no proper ancestor of it is collapsed; `shows_iff_mem_visible` ties this to
the visible nodes of the outline. What is asked of ancestors is stated for any property of items, as
`Under`, so that "collapsed", "collapsed, but not to be expanded" and "collapsed, but not the target
of an insertion" are one notion, with one lemma for each way to go through an outline.

The ids of an outline must be distinct for most of this. With an id twice, the node that an id names
need not be the one that lies below an ancestor.
-/

namespace MindMap

namespace Forest

variable {forest : Forest} {p q : Item → Prop} {id : String} {node : Node}

/-! ### Ancestors -/

/-- A node of the id lies somewhere below a node with the property. -/
def Under (forest : Forest) (p : Item → Prop) (id : String) : Prop :=
  ∃ above ∈ forest.nodes, p above.toItem ∧ id ∈ above.children.ids

theorem not_under_nil : ¬nil.Under p id := by simp [Under, nodes]

theorem under_cons {item : Item} {children rest : Forest} :
    (cons item children rest).Under p id ↔
      (p item ∧ id ∈ children.ids) ∨ children.Under p id ∨ rest.Under p id := by
  simp only [Under, nodes, List.mem_cons, List.mem_append, or_and_right, exists_or,
    exists_eq_left]

theorem mem_ids_of_mem_children (inForest : node ∈ forest.nodes) (below : id ∈ node.children.ids) :
    id ∈ forest.ids := by
  obtain ⟨lower, inChildren, rfl⟩ := List.mem_map.mp below
  exact List.mem_map_of_mem (mem_nodes_of_mem_children inForest inChildren)

theorem mem_ids_of_mem_node (inForest : node ∈ forest.nodes) (inNode : id ∈ node.ids) :
    id ∈ forest.ids := by
  rw [Node.ids_eq, List.mem_cons] at inNode
  rcases inNode with rfl | below
  · exact List.mem_map_of_mem inForest
  · exact mem_ids_of_mem_children inForest below

theorem Under.mem_ids (under : forest.Under p id) : id ∈ forest.ids := by
  obtain ⟨above, inForest, -, below⟩ := under
  exact mem_ids_of_mem_children inForest below

theorem Under.mono (under : forest.Under p id) (weaker : ∀ item, p item → q item) :
    forest.Under q id := by
  obtain ⟨above, inForest, holds, below⟩ := under
  exact ⟨above, inForest, weaker _ holds, below⟩

/-- An id that is not below the first root has what is above it in the rest. -/
theorem under_cons_of_not_below {item : Item} {children rest : Forest}
    (absent : id ∉ children.ids) :
    (cons item children rest).Under p id ↔ rest.Under p id := by
  rw [under_cons]
  constructor
  · rintro (⟨-, below⟩ | below | beside)
    · exact absurd below absent
    · exact absurd below.mem_ids absent
    · exact beside
  · exact fun beside => .inr (.inr beside)

/-- An id that is not in the rest has what is above it at or below the first root. -/
theorem under_cons_of_not_beside {item : Item} {children rest : Forest} (absent : id ∉ rest.ids) :
    (cons item children rest).Under p id ↔
      (p item ∧ id ∈ children.ids) ∨ children.Under p id := by
  rw [under_cons]
  constructor
  · rintro (above | below | beside)
    · exact .inl above
    · exact .inr below
    · exact absurd beside.mem_ids absent
  · exact fun above => above.imp_right .inl

/-- The parts of a forest whose ids are distinct. -/
structure Apart (item : Item) (children rest : Forest) : Prop where
  notBelow : item.id ∉ children.ids
  notBeside : item.id ∉ rest.ids
  childrenDistinct : children.Distinct
  restDistinct : rest.Distinct
  differ : ∀ id ∈ children.ids, id ∉ rest.ids

theorem Distinct.apart {item : Item} {children rest : Forest}
    (distinct : (cons item children rest).Distinct) : Apart item children rest := by
  unfold Distinct at distinct
  rw [ids_cons, List.nodup_cons, List.nodup_append, List.mem_append, not_or] at distinct
  obtain ⟨⟨notBelow, notBeside⟩, inChildren, inRest, differ⟩ := distinct
  exact ⟨notBelow, notBeside, inChildren, inRest, fun id below beside =>
    differ id below id beside rfl⟩

namespace Apart

variable {item : Item} {children rest : Forest} (apart : Apart item children rest)

include apart

theorem not_under_self : ¬(cons item children rest).Under p item.id := by
  rw [under_cons_of_not_below apart.notBelow]
  exact fun beside => apart.notBeside beside.mem_ids

theorem under_below (below : id ∈ children.ids) :
    (cons item children rest).Under p id ↔ p item ∨ children.Under p id := by
  rw [under_cons_of_not_beside (apart.differ id below), and_iff_left below]

theorem under_beside (beside : id ∈ rest.ids) :
    (cons item children rest).Under p id ↔ rest.Under p id :=
  under_cons_of_not_below fun below => apart.differ id below beside

end Apart

theorem Distinct.eq_of_id_eq (distinct : forest.Distinct) {one other : Node}
    (first : one ∈ forest.nodes) (second : other ∈ forest.nodes) (sameId : one.id = other.id) :
    one = other := by
  have found := distinct.find?_eq first
  rw [sameId, distinct.find?_eq second] at found
  exact (Option.some.inj found).symm

/-- A root has no ancestors. -/
theorem Distinct.not_under_of_mem_roots (distinct : forest.Distinct)
    (isRoot : node ∈ forest.roots) : ¬forest.Under p node.id := by
  induction forest with
  | nil => exact not_under_nil
  | cons item children rest _ inductionHypothesis =>
    have apart := distinct.apart
    rcases List.mem_cons.mp isRoot with rfl | later
    · exact apart.not_under_self
    · rw [apart.under_beside (List.mem_map_of_mem (mem_nodes_of_mem_roots later))]
      exact inductionHypothesis apart.restDistinct later

/-- What is above a node is above all that lies below the node. -/
theorem Distinct.under_of_mem_children (distinct : forest.Distinct) (inForest : node ∈ forest.nodes)
    (under : forest.Under p node.id) (below : id ∈ node.children.ids) : forest.Under p id := by
  obtain ⟨above, aboveInForest, holds, nodeBelow⟩ := under
  obtain ⟨other, inChildren, sameId⟩ := List.mem_map.mp nodeBelow
  obtain rfl := distinct.eq_of_id_eq (mem_nodes_of_mem_children aboveInForest inChildren) inForest
    sameId
  exact ⟨above, aboveInForest, holds, mem_ids_of_mem_children inChildren below⟩

/-- What is above a node is above all of its subtree. -/
theorem Distinct.under_of_mem_node (distinct : forest.Distinct) (inForest : node ∈ forest.nodes)
    (under : forest.Under p node.id) (inNode : id ∈ node.ids) : forest.Under p id := by
  rw [Node.ids_eq, List.mem_cons] at inNode
  rcases inNode with rfl | below
  · exact under
  · exact distinct.under_of_mem_children inForest under below

/-- What is above a child is its parent or above its parent. -/
theorem Distinct.under_child (distinct : forest.Distinct) {parent child : Node}
    (inForest : parent ∈ forest.nodes) (isChild : child ∈ parent.children.roots)
    (under : forest.Under p child.id) : p parent.toItem ∨ forest.Under p parent.id := by
  have inChildren : child.id ∈ parent.children.ids :=
    List.mem_map_of_mem (mem_nodes_of_mem_roots isChild)
  induction forest with
  | nil => exact absurd under not_under_nil
  | cons item children rest childrenHypothesis restHypothesis =>
    have apart := distinct.apart
    simp only [nodes, List.mem_cons, List.mem_append] at inForest
    rcases inForest with rfl | inside | later
    · rw [apart.under_below inChildren] at under
      exact .inl (under.resolve_right (apart.childrenDistinct.not_under_of_mem_roots isChild))
    · rw [apart.under_below (mem_ids_of_mem_children inside inChildren)] at under
      rw [apart.under_below (List.mem_map_of_mem inside)]
      rcases under with holds | below
      · exact .inr (.inl holds)
      · exact (childrenHypothesis apart.childrenDistinct inside below).imp_right .inr
    · rw [apart.under_beside (mem_ids_of_mem_children later inChildren)] at under
      rw [apart.under_beside (List.mem_map_of_mem later)]
      exact restHypothesis apart.restDistinct later under

/-! ### Parents and siblings -/

theorem exists_root_of_hasRoot (isRoot : forest.hasRoot id = true) :
    ∃ root ∈ forest.roots, root.id = id := by
  unfold hasRoot at isRoot
  induction forest with
  | nil => cases isRoot
  | cons item children rest _ inductionHypothesis =>
    unfold rootPosition? at isRoot
    split at isRoot
    · next same => exact ⟨_, List.mem_cons_self, same⟩
    · rw [Option.isSome_map] at isRoot
      obtain ⟨root, later, sameId⟩ := inductionHypothesis isRoot
      exact ⟨root, List.mem_cons_of_mem _ later, sameId⟩

/-- The parent of a node has it among its children. -/
theorem exists_child_of_parent? {parent : Node} (found : forest.parent? id = some parent) :
    ∃ child ∈ parent.children.roots, child.id = id := by
  induction forest with
  | nil => cases found
  | cons item children rest childrenHypothesis restHypothesis =>
    unfold parent? at found
    split at found
    · next isRoot =>
      cases found
      exact exists_root_of_hasRoot isRoot
    · rcases Option.or_eq_some_iff.mp found with inside | ⟨-, later⟩
      · exact childrenHypothesis inside
      · exact restHypothesis later

theorem mem_children_of_parent? {parent : Node} (found : forest.parent? id = some parent) :
    id ∈ parent.children.ids := by
  obtain ⟨child, isChild, rfl⟩ := exists_child_of_parent? found
  exact List.mem_map_of_mem (mem_nodes_of_mem_roots isChild)

/-- What is above the parent of a node is above the node. -/
theorem Distinct.under_of_parent? (distinct : forest.Distinct) {parent : Node}
    (found : forest.parent? id = some parent) (under : forest.Under p parent.id) :
    forest.Under p id :=
  distinct.under_of_mem_children (mem_nodes_of_parent? found) under (mem_children_of_parent? found)

/-- What is above a sibling of a node is above the node. -/
theorem Distinct.under_of_siblings? (distinct : forest.Distinct) {siblings : Forest} {index : Nat}
    (found : forest.siblings? id = some (siblings, index)) (isSibling : node ∈ siblings.roots)
    (under : forest.Under p node.id) : forest.Under p id := by
  unfold siblings? at found
  split at found
  · cases found
    exact absurd under (distinct.not_under_of_mem_roots isSibling)
  · split at found
    · cases found
    · next parent parentFound =>
      obtain ⟨_, _, same⟩ := Option.map_eq_some_iff.mp found
      cases same
      have inForest := mem_nodes_of_parent? parentFound
      have below := mem_children_of_parent? parentFound
      rcases distinct.under_child inForest isSibling under with holds | above
      · exact ⟨parent, inForest, holds, below⟩
      · exact distinct.under_of_mem_children inForest above below

/-! ### Nodes in sight -/

/-- A node of the id lies below a collapsed node. -/
def Hides (forest : Forest) (id : String) : Prop := forest.Under (·.collapsed = true) id

/-- The id is that of a node with no collapsed proper ancestor. -/
def Shows (forest : Forest) (id : String) : Prop := id ∈ forest.ids ∧ ¬forest.Hides id

instance (forest : Forest) (id : String) : Decidable (forest.Hides id) :=
  List.decidableBEx (fun above : Node => above.collapsed = true ∧ id ∈ above.children.ids)
    forest.nodes

instance (forest : Forest) (id : String) : Decidable (forest.Shows id) :=
  inferInstanceAs (Decidable (id ∈ forest.ids ∧ ¬forest.Hides id))

/-- The nodes in sight are the visible ones. -/
theorem Distinct.shows_iff_mem_visible (distinct : forest.Distinct) :
    forest.Shows id ↔ ∃ node ∈ forest.visible, node.id = id := by
  induction forest with
  | nil => simp [Shows, Forest.visible]
  | cons item children rest childrenHypothesis restHypothesis =>
    have apart := distinct.apart
    specialize childrenHypothesis apart.childrenDistinct
    specialize restHypothesis apart.restDistinct
    constructor
    · rintro ⟨present, notHidden⟩
      rw [ids_cons, List.mem_cons, List.mem_append] at present
      rcases present with rfl | below | beside
      · exact ⟨_, List.mem_cons_self, rfl⟩
      · rw [Hides, apart.under_below below, not_or] at notHidden
        obtain ⟨node, visible, sameId⟩ := childrenHypothesis.mp ⟨below, notHidden.2⟩
        exact ⟨node, by simp [Forest.visible, notHidden.1, visible], sameId⟩
      · rw [Hides, apart.under_beside beside] at notHidden
        obtain ⟨node, visible, sameId⟩ := restHypothesis.mp ⟨beside, notHidden⟩
        exact ⟨node, by simp [Forest.visible, visible], sameId⟩
    · rintro ⟨node, visible, rfl⟩
      simp only [Forest.visible, List.mem_cons, List.mem_append] at visible
      rcases visible with rfl | below | beside
      · exact ⟨by simp, apart.not_under_self⟩
      · split at below
        · cases below
        · next expanded =>
          obtain ⟨present, notHidden⟩ := childrenHypothesis.mpr ⟨node, below, rfl⟩
          refine ⟨by simp [present], ?_⟩
          rw [Hides, apart.under_below present]
          exact not_or.mpr ⟨expanded, notHidden⟩
      · obtain ⟨present, notHidden⟩ := restHypothesis.mpr ⟨node, beside, rfl⟩
        refine ⟨by simp [present], ?_⟩
        rwa [Hides, apart.under_beside present]

end Forest

end MindMap
