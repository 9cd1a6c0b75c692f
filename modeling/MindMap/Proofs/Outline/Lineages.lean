import MindMap.Proofs.Outline.Relocation

/-!
# Lineages

The nodes above a node, from its parent up to a root, are its lineage. `lineages` lists every node
in pre-order together with its lineage. The nodes are told apart by where they stand and not by
their ids, so all that is said of lineages as such holds of any outline.

Where ids are distinct, looking up the parent of a node finds the first node of its lineage, and so
a lineage is what going up leads through.
-/

namespace MindMap

namespace Forest

variable {forest : Forest} {above left right : List Node} {node parent : Node} {id : String}

/-- Every node in pre-order, with the nodes above it, the parent first. The nodes `above` are above
the roots. -/
def lineagesFrom (above : List Node) : Forest → List (List Node × Node)
  | nil => []
  | cons item children rest =>
    (above, ⟨item, children⟩) ::
      (children.lineagesFrom (⟨item, children⟩ :: above) ++ rest.lineagesFrom above)

/-- Every node in pre-order, with the nodes above it, the parent first. -/
def lineages (forest : Forest) : List (List Node × Node) := forest.lineagesFrom []

/-- The number of levels, where the roots are one. -/
def levels : Forest → Nat
  | nil => 0
  | cons _ children rest => max (1 + children.levels) rest.levels

theorem map_snd_lineagesFrom (forest : Forest) (upper : List Node) :
    (forest.lineagesFrom upper).map (·.2) = forest.nodes := by
  induction forest generalizing upper with
  | nil => rfl
  | cons item children rest childrenHypothesis restHypothesis =>
    simp [lineagesFrom, nodes, childrenHypothesis, restHypothesis]

theorem exists_lineage (inForest : node ∈ forest.nodes) :
    ∃ above, (above, node) ∈ forest.lineages := by
  rw [← map_snd_lineagesFrom forest []] at inForest
  obtain ⟨⟨above, other⟩, member, rfl⟩ := List.mem_map.mp inForest
  exact ⟨above, member⟩

theorem mem_nodes_of_mem_lineages (lineage : (above, node) ∈ forest.lineages) :
    node ∈ forest.nodes := by
  rw [← map_snd_lineagesFrom forest []]
  exact List.mem_map_of_mem lineage

/-! ### Going up one level -/

/-- A node that has only the `upper` nodes above it is a root. Otherwise its parent has its lineage in
turn, and has the node among its children. -/
theorem mem_lineagesFrom_cases {upper : List Node}
    (lineage : (above, node) ∈ forest.lineagesFrom upper) :
    (above = upper ∧ node ∈ forest.roots) ∨
      ∃ parent higher, above = parent :: higher ∧
        (higher, parent) ∈ forest.lineagesFrom upper ∧ node ∈ parent.children.roots := by
  induction forest generalizing upper with
  | nil => cases lineage
  | cons item children rest childrenHypothesis restHypothesis =>
    simp only [lineagesFrom, List.mem_cons, List.mem_append] at lineage
    rcases lineage with same | inside | later
    · cases same
      exact .inl ⟨rfl, List.mem_cons_self⟩
    · right
      rcases childrenHypothesis inside with ⟨rfl, isChild⟩ | ⟨parent, higher, rfl, member, isChild⟩
      · exact ⟨⟨item, children⟩, upper, rfl, List.mem_cons_self, isChild⟩
      · exact ⟨parent, higher, rfl, by simp [lineagesFrom, member], isChild⟩
    · rcases restHypothesis later with ⟨rfl, isRoot⟩ | ⟨parent, higher, rfl, member, isChild⟩
      · exact .inl ⟨rfl, List.mem_cons_of_mem _ isRoot⟩
      · exact .inr ⟨parent, higher, rfl, by simp [lineagesFrom, member], isChild⟩

theorem mem_roots_of_lineage (lineage : ([], node) ∈ forest.lineages) : node ∈ forest.roots := by
  rcases mem_lineagesFrom_cases lineage with ⟨-, isRoot⟩ | ⟨_, _, equal, -⟩
  · exact isRoot
  · cases equal

theorem parent_of_lineage (lineage : (parent :: above, node) ∈ forest.lineages) :
    (above, parent) ∈ forest.lineages ∧ node ∈ parent.children.roots := by
  rcases mem_lineagesFrom_cases lineage with ⟨equal, -⟩ | ⟨_, _, equal, member, isChild⟩
  · cases equal
  · cases equal
    exact ⟨member, isChild⟩

/-- A lineage is shorter than the outline has levels. -/
theorem length_lt_levels {upper : List Node} (lineage : (above, node) ∈ forest.lineagesFrom upper) :
    above.length < upper.length + forest.levels := by
  induction forest generalizing upper with
  | nil => cases lineage
  | cons item children rest childrenHypothesis restHypothesis =>
    simp only [lineagesFrom, List.mem_cons, List.mem_append] at lineage
    rw [levels]
    rcases lineage with same | inside | later
    · cases same
      omega
    · have bound := childrenHypothesis inside
      rw [List.length_cons] at bound
      omega
    · have bound := restHypothesis later
      omega

/-! ### Looking up parents -/

theorem parent?_eq_none_of_not_mem (absent : id ∉ forest.ids) : forest.parent? id = none := by
  cases found : forest.parent? id with
  | none => rfl
  | some parent =>
    exact absurd (mem_ids_of_mem_children (mem_nodes_of_parent? found)
      (mem_children_of_parent? found)) absent

theorem hasRoot_of_mem_roots (isRoot : node ∈ forest.roots) : forest.hasRoot node.id = true := by
  unfold hasRoot
  induction forest with
  | nil => cases isRoot
  | cons item children rest _ inductionHypothesis =>
    rw [rootPosition?]
    split
    · rfl
    · next differs =>
      rcases List.mem_cons.mp isRoot with rfl | later
      · exact absurd rfl differs
      · rw [Option.isSome_map]
        exact inductionHypothesis later

theorem hasRoot_eq_false_of_not_mem (absent : id ∉ forest.ids) : forest.hasRoot id = false := by
  rw [Bool.eq_false_iff]
  intro isRoot
  obtain ⟨root, member, rfl⟩ := exists_root_of_hasRoot isRoot
  exact absent (List.mem_map_of_mem (mem_nodes_of_mem_roots member))

/-- Where ids are distinct, no root lies below another node. -/
theorem Distinct.not_mem_children_of_mem_roots (distinct : forest.Distinct)
    (isRoot : node ∈ forest.roots) (inForest : parent ∈ forest.nodes) :
    node.id ∉ parent.children.ids := by
  have notUnder : ¬forest.Under (fun _ => True) node.id := distinct.not_under_of_mem_roots isRoot
  exact fun below => notUnder ⟨parent, inForest, trivial, below⟩

/-- Where ids are distinct, what lies below a node is no root. -/
theorem Distinct.hasRoot_eq_false_of_mem_children (distinct : forest.Distinct)
    (inForest : parent ∈ forest.nodes) (below : id ∈ parent.children.ids) :
    forest.hasRoot id = false := by
  rw [Bool.eq_false_iff]
  intro isRoot
  obtain ⟨root, member, rfl⟩ := exists_root_of_hasRoot isRoot
  exact distinct.not_mem_children_of_mem_roots member inForest below

/-- Where ids are distinct, the parent that is looked up for a child is the one it is a child of. -/
theorem Distinct.parent?_eq (distinct : forest.Distinct) (inForest : parent ∈ forest.nodes)
    (isChild : node ∈ parent.children.roots) : forest.parent? node.id = some parent := by
  have below : node.id ∈ parent.children.ids :=
    List.mem_map_of_mem (mem_nodes_of_mem_roots isChild)
  induction forest with
  | nil => cases inForest
  | cons item children rest childrenHypothesis restHypothesis =>
    have apart := distinct.apart
    rw [Forest.parent?]
    simp only [nodes, List.mem_cons, List.mem_append] at inForest
    rcases inForest with rfl | inside | later
    · rw [if_pos (hasRoot_of_mem_roots isChild)]
    · rw [apart.childrenDistinct.hasRoot_eq_false_of_mem_children inside below,
        childrenHypothesis apart.childrenDistinct inside]
      rfl
    · have notBelow : node.id ∉ children.ids := fun inChildren =>
        apart.differ _ inChildren (mem_ids_of_mem_children later below)
      rw [hasRoot_eq_false_of_not_mem notBelow, parent?_eq_none_of_not_mem notBelow,
        restHypothesis apart.restDistinct later]
      rfl

/-- Where ids are distinct, no parent is looked up for a root. -/
theorem Distinct.parent?_eq_none_of_mem_roots (distinct : forest.Distinct)
    (isRoot : node ∈ forest.roots) : forest.parent? node.id = none := by
  cases found : forest.parent? node.id with
  | none => rfl
  | some parent =>
    exact absurd (mem_children_of_parent? found)
      (distinct.not_mem_children_of_mem_roots isRoot (mem_nodes_of_parent? found))

/-- Where ids are distinct, the parent that is looked up is the first node of the lineage. -/
theorem Distinct.parent?_of_lineage (distinct : forest.Distinct)
    (lineage : (above, node) ∈ forest.lineages) : forest.parent? node.id = above.head? := by
  cases above with
  | nil => exact distinct.parent?_eq_none_of_mem_roots (mem_roots_of_lineage lineage)
  | cons parent higher =>
    obtain ⟨parentLineage, isChild⟩ := parent_of_lineage lineage
    exact distinct.parent?_eq (mem_nodes_of_mem_lineages parentLineage) isChild

end Forest

end MindMap
