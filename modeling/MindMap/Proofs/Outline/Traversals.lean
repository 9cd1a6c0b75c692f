import MindMap.Outline.Walk
import MindMap.Proofs.Outline.Distinctness
import MindMap.Proofs.Outline.Lineages
import MindMap.Proofs.Outline.Shape

/-!
# One order

Whatever goes through an outline meets its nodes in the same order, be it by recursion or by a walk
that keeps the nodes to come on a stack. What ties a walk to the recursion is that the nodes on the
stack are the roots of an outline of their own: what the walk still passes is what the recursion
passes there.

No id need be distinct here. Where several nodes have the id that is looked for, each look-up and each
update takes the first of them in this order.
-/

namespace MindMap

namespace Forest

/-- The nodes below no node that is not entered, in pre-order. -/
def passed (enters : Node → Bool) : Forest → List Node
  | nil => []
  | cons item children rest =>
    ⟨item, children⟩ ::
      ((if enters ⟨item, children⟩ then children.passed enters else []) ++ rest.passed enters)

theorem passed_true (forest : Forest) : forest.passed (fun _ => true) = forest.nodes := by
  induction forest with
  | nil => rfl
  | cons item children rest childrenHypothesis restHypothesis =>
    simp [passed, nodes, childrenHypothesis, restHypothesis]

theorem passed_expanded (forest : Forest) : forest.passed (!·.collapsed) = forest.visible := by
  induction forest with
  | nil => rfl
  | cons item children rest childrenHypothesis restHypothesis =>
    rw [passed, visible, childrenHypothesis, restHypothesis]
    cases item.collapsed <;> rfl

theorem passed_ofRoots_append (enters : Node → Bool) (first second : List Node) :
    (ofRoots (first ++ second)).passed enters =
      (ofRoots first).passed enters ++ (ofRoots second).passed enters := by
  induction first with
  | nil => rfl
  | cons node first inductionHypothesis => simp [ofRoots, passed, inductionHypothesis]

end Forest

namespace Walk

variable {enters : Node → Bool} {walk later : Walk} {node : Node}

/-- What is still to be passed is the node that comes next and what is to be passed after it. -/
theorem passed_of_next? (next : walk.next? enters = some (node, later)) :
    (Forest.ofRoots walk.toCome).passed enters =
      node :: (Forest.ofRoots later.toCome).passed enters := by
  obtain ⟨others, before, after⟩ := toCome_of_next? next
  rw [before, after, Forest.passed_ofRoots_append, Forest.ofRoots, Forest.passed]
  split <;> simp [Forest.ofRoots, Forest.passed]

/-- A walk passes what the recursion passes among the nodes on its stack. -/
theorem toList_eq (enters : Node → Bool) (walk : Walk) :
    walk.toList enters = (Forest.ofRoots walk.toCome).passed enters := by
  induction walk using Walk.toList.induct enters with
  | case1 walk ended =>
    rw [toList, ended, next?_eq_none_iff.mp ended]
    rfl
  | case2 walk node later next inductionHypothesis =>
    rw [toList, next, passed_of_next? next]
    exact congrArg (node :: ·) inductionHypothesis

/-- A walk that ends early has found the first of the nodes that it would have passed. -/
theorem find?_eq (wanted enters : Node → Bool) (walk : Walk) :
    walk.find? wanted enters = (walk.toList enters).find? wanted := by
  induction walk using Walk.toList.induct enters with
  | case1 walk ended =>
    rw [find?, toList, ended]
    rfl
  | case2 walk node later next inductionHypothesis =>
    rw [find?, toList, next]
    dsimp only
    rw [List.find?_cons]
    cases wanted node with
    | true => rfl
    | false => exact inductionHypothesis

theorem toList_start (enters : Node → Bool) (forest : Forest) :
    (start forest).toList enters = forest.passed enters := by
  rw [toList_eq, toCome_start, Forest.ofRoots_roots]

end Walk

namespace Forest

/-! ### Visible nodes and their depths -/

/-- The nodes with no collapsed node above them, in pre-order, each with all nodes above it. -/
def shownFrom (upper : List Node) (forest : Forest) : List (List Node × Node) :=
  (forest.lineagesFrom upper).filter fun (above, _) => above.all (!·.collapsed)

/-- Below a collapsed node, nothing is shown. -/
theorem shownFrom_of_hidden {upper : List Node} (hidden : upper.all (!·.collapsed) = false)
    (forest : Forest) : forest.shownFrom upper = [] := by
  unfold shownFrom
  induction forest generalizing upper with
  | nil => rfl
  | cons item children rest childrenHypothesis restHypothesis =>
    have below : ((⟨item, children⟩ : Node) :: upper).all (!·.collapsed) = false := by
      rw [List.all_cons, hidden, Bool.and_false]
    rw [lineagesFrom, List.filter_cons_of_neg (by simp [hidden]), List.filter_append,
      childrenHypothesis below, restHypothesis hidden, List.append_nil]

/-- The rows of the outline are what is shown, each as deep as there are nodes above it. -/
theorem rowsFrom_eq {upper : List Node} (expanded : upper.all (!·.collapsed) = true)
    (forest : Forest) :
    forest.rowsFrom upper.length =
      (forest.shownFrom upper).map fun (above, node) => (above.length, node) := by
  induction forest generalizing upper with
  | nil => rfl
  | cons item children rest childrenHypothesis restHypothesis =>
    have split : (cons item children rest).shownFrom upper =
        (upper, ⟨item, children⟩) ::
          (children.shownFrom (⟨item, children⟩ :: upper) ++ rest.shownFrom upper) := by
      rw [shownFrom, lineagesFrom, List.filter_cons_of_pos (by exact expanded),
        List.filter_append]
      rfl
    rw [split, List.map_cons, List.map_append, ← restHypothesis expanded, rowsFrom]
    cases collapsed : item.collapsed with
    | true =>
      rw [shownFrom_of_hidden (by simp [collapsed])]
      rfl
    | false =>
      rw [← childrenHypothesis (by simpa [collapsed] using expanded)]
      rfl

/-- The rows of an outline are its visible nodes. -/
theorem map_rowsFrom (depth : Nat) (forest : Forest) :
    (forest.rowsFrom depth).map (·.2) = forest.visible := by
  induction forest generalizing depth with
  | nil => rfl
  | cons item children rest childrenHypothesis restHypothesis =>
    rw [rowsFrom, visible, List.map_cons, List.map_append, restHypothesis]
    split
    · rfl
    · rw [childrenHypothesis]

theorem rows_eq (forest : Forest) :
    forest.rows = (forest.shownFrom []).map fun (above, node) => (above.length, node) := by
  have expanded : ([] : List Node).all (!·.collapsed) = true := rfl
  exact rowsFrom_eq expanded forest

theorem visible_eq (forest : Forest) : forest.visible = (forest.shownFrom []).map (·.2) := by
  rw [← map_rowsFrom 0, ← rows, rows_eq, List.map_map]
  rfl

/-! ### Look-ups -/

/-- The parent that is found is the first node in pre-order with such a child. -/
theorem parent?_eq_find?_nodes (forest : Forest) (id : String) :
    forest.parent? id = forest.nodes.find? (·.children.hasRoot id) := by
  induction forest with
  | nil => rfl
  | cons item children rest childrenHypothesis restHypothesis =>
    rw [parent?, nodes, List.find?_cons, List.find?_append, childrenHypothesis, restHypothesis]
    cases children.hasRoot id <;> rfl

/-! ### Updates -/

/-- An update needs a node with the id. -/
theorem update_succeedsIff (forest : Forest) (id : String) (update : Update) :
    (Edit.update id update).SucceedsIff forest ((forest.find? id).isSome = true) := by
  refine .of (fun present => ?_) fun missing => ?_
  · obtain ⟨updated, changed⟩ := Option.isSome_iff_exists.mp
      ((isSome_update? forest id update).trans present)
    exact ⟨(), updated, by rw [Edit.run_update, changed]⟩
  · have unchanged : forest.update? id update = none :=
      update?_eq_none_iff.mpr (Option.not_isSome_iff_eq_none.mp missing)
    exact ⟨.notFound id, by rw [Edit.run_update, unchanged]⟩

theorem update?_of_run_update {forest updated : Forest} {id : String} {update : Update}
    (run : (Edit.update id update).run forest = .ok () updated) :
    forest.update? id update = some updated := by
  rw [Edit.run_update] at run
  cases changed : forest.update? id update with
  | none =>
    rw [changed] at run
    cases run
  | some found =>
    rw [changed] at run
    cases run
    rfl

/-! ### Agreement -/

/-- All ways through an outline agree, and what is looked up or updated is found by them. -/
structure TraversalsAgree (forest : Forest) : Prop where
  walk : (Walk.start forest).toList (fun _ => true) = forest.nodes
  walkOfVisible : (Walk.start forest).toList (!·.collapsed) = forest.visible
  size : forest.size = forest.nodes.length
  subtreeSize : ∀ node : Node, node.size = node.forest.nodes.length
  /-- The lineages tell what is above each node. -/
  lineages : forest.lineages.map (·.2) = forest.nodes
  rootLineage : ∀ node, ([], node) ∈ forest.lineages → node ∈ forest.roots
  childLineage : ∀ parent above node, (parent :: above, node) ∈ forest.lineages →
    (above, parent) ∈ forest.lineages ∧ node ∈ parent.children.roots
  visible : forest.visible = (forest.shownFrom []).map (·.2)
  rows : forest.rows = (forest.shownFrom []).map fun (above, node) => (above.length, node)
  rowsOfVisible : forest.rows.map (·.2) = forest.visible
  walkFinds : ∀ id, (Walk.start forest).find? (·.id = id) (fun _ => true) =
    forest.nodes.find? (·.id = id)
  finds : ∀ id, forest.find? id = forest.nodes.find? (·.id = id)
  subtreeFinds : ∀ (node : Node) (id : String),
    node.find? id = node.forest.nodes.find? (·.id = id)
  findsParent : ∀ id, forest.parent? id = forest.nodes.find? (·.children.hasRoot id)
  /-- An update finds its node as the look-ups do, and it fails only if they do. -/
  updates : ∀ id update,
    (Edit.update id update).SucceedsIff forest ((forest.find? id).isSome = true)
  updatesFirst : ∀ id update updated,
    (Edit.update id update).run forest = .ok () updated →
      forest.ChangesFirst id update updated ∧ updated.ids = forest.ids

/-- All traversals agree, whether or not ids are distinct. -/
theorem traversals_agree (forest : Forest) : forest.TraversalsAgree where
  walk := (Walk.toList_start _ forest).trans forest.passed_true
  walkOfVisible := (Walk.toList_start _ forest).trans forest.passed_expanded
  size := forest.length_nodes.symm
  subtreeSize node := by rw [length_nodes]; rfl
  lineages := map_snd_lineagesFrom forest []
  rootLineage _ := mem_roots_of_lineage
  childLineage _ _ _ := parent_of_lineage
  visible := forest.visible_eq
  rows := forest.rows_eq
  rowsOfVisible := map_rowsFrom 0 forest
  walkFinds id := by rw [Walk.find?_eq, Walk.toList_start, passed_true]
  finds := forest.find?_eq_find?_nodes
  subtreeFinds node id := by
    rw [← find?_eq_find?_nodes]
    simp [Node.find?, Node.forest, find?]
  findsParent := forest.parent?_eq_find?_nodes
  updates := forest.update_succeedsIff
  updatesFirst id update updated run := by
    have changed := changesFirst_of_update? (update?_of_run_update run)
    exact ⟨changed, changed.ids⟩

end Forest

end MindMap
