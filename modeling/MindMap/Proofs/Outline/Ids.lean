import MindMap.Outline.Edit

/-!
# Ids of outlines

Every change of an outline is accounted for by the ids in pre-order. Taking a subtree out divides
the ids between the subtree and the rest, placing a subtree joins them again, and updating a node
keeps them in their order. An outline is `Distinct` if no id occurs in it twice; that is exactly
what `checkDistinct` accepts.

The order of ids after placing is not described here: these statements are up to permutation.
-/

namespace MindMap

/-- No id clashes exactly if the ids are distinct and none of them is taken. -/
theorem firstClash?_eq_none_iff {taken ids : List String} :
    firstClash? taken ids = none ↔ ids.Nodup ∧ ∀ id ∈ ids, id ∉ taken := by
  induction ids generalizing taken with
  | nil => simp [firstClash?]
  | cons id rest inductionHypothesis =>
    by_cases clash : id ∈ taken
    · simp [firstClash?, clash]
    · simp only [firstClash?, List.contains_eq_mem, clash, decide_false, Bool.false_eq_true,
        if_false, inductionHypothesis, List.nodup_cons, List.mem_cons, forall_eq_or_imp,
        not_false_eq_true, true_and, not_or]
      constructor
      · rintro ⟨nodup, fresh⟩
        have notAgain : id ∉ rest := fun again => (fresh id again).1 rfl
        exact ⟨⟨notAgain, nodup⟩, fun other member => (fresh other member).2⟩
      · rintro ⟨⟨notAgain, nodup⟩, fresh⟩
        refine ⟨nodup, fun other member => ⟨?_, fresh other member⟩⟩
        rintro rfl
        exact notAgain member

theorem Node.ids_eq (node : Node) : node.ids = node.id :: node.children.ids := by
  simp [Node.ids, Node.forest, Forest.ids, Forest.nodes]

theorem Node.contains_iff_mem_ids {node : Node} {id : String} :
    node.contains id = true ↔ id ∈ node.ids := by
  by_cases same : node.id = id
  · simp [Node.contains, Node.find?, Node.ids_eq, same]
  · have inChildren : node.children.contains id = true ↔ id ∈ node.children.ids :=
      Forest.contains_iff_mem_ids
    simp only [Forest.contains] at inChildren
    simp [Node.contains, Node.find?, Node.ids_eq, same, inChildren, Ne.symm same]

namespace Forest

/-- No id occurs twice. -/
def Distinct (forest : Forest) : Prop := forest.ids.Nodup

instance (forest : Forest) : Decidable forest.Distinct :=
  inferInstanceAs (Decidable forest.ids.Nodup)

@[simp] theorem ids_nil : nil.ids = [] := rfl

@[simp] theorem ids_cons (item : Item) (children rest : Forest) :
    (cons item children rest).ids = item.id :: (children.ids ++ rest.ids) := by
  simp [ids, nodes]

@[simp] theorem ids_push (node : Node) (forest : Forest) :
    (push node forest).ids = node.ids ++ forest.ids := by
  simp [push, Node.ids_eq]

@[simp] theorem ids_snoc (forest : Forest) (node : Node) :
    (forest.snoc node).ids = forest.ids ++ node.ids := by
  induction forest with
  | nil => simp [snoc, Node.forest, Node.ids_eq]
  | cons item children rest _ inductionHypothesis => simp [snoc, inductionHypothesis]

theorem length_ids (forest : Forest) : forest.ids.length = forest.size := by
  rw [← length_nodes, ids, List.length_map]

@[simp] theorem contains_cons (item : Item) (children rest : Forest) (id : String) :
    (cons item children rest).contains id =
      (decide (item.id = id) || children.contains id || rest.contains id) := by
  by_cases same : item.id = id <;> simp [contains, find?, same]

/-- A document is accepted exactly if its ids are distinct, and then as it is. -/
theorem checkDistinct_eq_ok_iff {forest accepted : Forest} :
    forest.checkDistinct = .ok accepted ↔ forest.Distinct ∧ accepted = forest := by
  have noClash : forest.repeatedId? = none ↔ forest.Distinct := by
    simp [repeatedId?, firstClash?_eq_none_iff, Distinct]
  unfold checkDistinct
  split
  · next none => simp [noClash.mp none, eq_comm]
  · next id clash => simp [← noClash, clash]

/-- The node that a look-up finds is one of the forest and has the id. -/
theorem mem_nodes_of_find? {forest : Forest} {node : Node} {id : String}
    (found : forest.find? id = some node) : node ∈ forest.nodes ∧ node.id = id := by
  rw [find?_eq_find?_nodes] at found
  exact ⟨List.mem_of_find?_eq_some found, by simpa using List.find?_some found⟩

theorem mem_nodes_of_mem_roots {forest : Forest} {node : Node} (member : node ∈ forest.roots) :
    node ∈ forest.nodes := by
  induction forest with
  | nil => simp [roots] at member
  | cons item children rest _ inductionHypothesis =>
    rcases List.mem_cons.mp member with rfl | later
    · exact List.mem_cons_self
    · exact List.mem_cons_of_mem _ (List.mem_append_right _ (inductionHypothesis later))

theorem mem_ids_of_find? {forest : Forest} {node : Node} {id : String}
    (found : forest.find? id = some node) : id ∈ forest.ids :=
  contains_iff_mem_ids.mp (by simp [contains, found])

theorem exists_find?_of_mem_ids {forest : Forest} {id : String} (member : id ∈ forest.ids) :
    ∃ node, forest.find? id = some node :=
  Option.isSome_iff_exists.mp (contains_iff_mem_ids.mpr member)

theorem find?_eq_none_iff {forest : Forest} {id : String} :
    forest.find? id = none ↔ id ∉ forest.ids := by
  rw [← contains_iff_mem_ids, contains, Option.not_isSome_iff_eq_none]

private theorem find?_of_nodup_ids {nodes : List Node} (distinct : (nodes.map (·.id)).Nodup)
    {node : Node} (member : node ∈ nodes) : nodes.find? (·.id = node.id) = some node := by
  induction nodes with
  | nil => simp at member
  | cons first rest inductionHypothesis =>
    rw [List.map_cons, List.nodup_cons] at distinct
    rcases List.mem_cons.mp member with rfl | later
    · simp
    · have differs : first.id ≠ node.id := by
        intro same
        exact distinct.1 (same ▸ List.mem_map_of_mem later)
      rw [List.find?_cons_of_neg (by simpa using differs)]
      exact inductionHypothesis distinct.2 later

/-- Where ids are distinct, every node is the one that a look-up of its id finds. -/
theorem Distinct.find?_eq {forest : Forest} (distinct : forest.Distinct) {node : Node}
    (member : node ∈ forest.nodes) : forest.find? node.id = some node := by
  rw [find?_eq_find?_nodes]
  exact find?_of_nodup_ids distinct member

end Forest

end MindMap
