import MindMap.Proofs.Motions
import MindMap.Proofs.Outline.Lineages

/-!
# Repeated steps

A step that is repeated follows a chain, and where the chain ends it goes no further, however often it
is to be repeated. Going left follows the lineage of a node, where ids are distinct, and going right
the closest children. Both chains are shorter than the outline has levels, and so are the loops that
follow them.
-/

namespace MindMap

section

variable {α : Type} {step : α → Option α} {start : α} {path : List α}

/-- Repeat a step as often as asked, as far as there is one. Returns what is reached and the number of
turns; to find that there is no further step is a turn as well. -/
def repeated (step : α → Option α) (start : α) : Nat → α × Nat
  | 0 => (start, 0)
  | count + 1 =>
    match step start with
    | none => (start, 1)
    | some next =>
      let (reached, turns) := repeated step next count
      (reached, turns + 1)

/-- All that a step leads through, until there is no further step. -/
inductive Chain (step : α → Option α) : α → List α → Prop where
  | ends {start : α} (last : step start = none) : Chain step start []
  | goes {start next : α} {path : List α} (leads : step start = some next)
      (onward : Chain step next path) : Chain step start (next :: path)

/-- What is reached is as far along the chain as the step was to be repeated, or its end. -/
theorem Chain.reaches (chain : Chain step start path) (count : Nat) :
    (start :: path)[min count path.length]? = some (repeated step start count).1 := by
  induction chain generalizing count with
  | ends last => cases count <;> simp [repeated, last]
  | goes leads _ inductionHypothesis =>
    cases count with
    | zero => simp [repeated]
    | succ count =>
      rw [List.length_cons, Nat.add_min_add_right, List.getElem?_cons_succ, inductionHypothesis]
      simp [repeated, leads]

/-- A chain is one of whatever its steps correspond to. -/
theorem Chain.map {β : Type} {further : β → Option β} (image : α → β)
    (corresponds : ∀ point, further (image point) = (step point).map image)
    (chain : Chain step start path) : Chain further (image start) (path.map image) := by
  induction chain with
  | ends last => exact .ends (by rw [corresponds, last]; rfl)
  | goes leads _ inductionHypothesis =>
    exact .goes (by rw [corresponds, leads]; rfl) inductionHypothesis

theorem Chain.turns (chain : Chain step start path) (count : Nat) :
    (repeated step start count).2 = min count (path.length + 1) := by
  induction chain generalizing count with
  | ends last => cases count <;> simp [repeated, last]
  | goes leads _ inductionHypothesis =>
    cases count with
    | zero => simp [repeated]
    | succ count => simp [repeated, leads, inductionHypothesis, Nat.add_min_add_right]

end

namespace Forest

variable {forest : Forest} {node ancestor : Node} {above : List Node}

/-! ### Going up -/

theorem climb_eq_repeated (forest : Forest) (node : Node) (count : Nat) :
    forest.climb node count = (repeated (fun node => forest.parent? node.id) node count).1 := by
  induction count generalizing node with
  | zero => rfl
  | succ count inductionHypothesis =>
    rw [climb, repeated]
    cases forest.parent? node.id with
    | none => rfl
    | some parent => exact inductionHypothesis parent

/-- Where ids are distinct, going up leads through the lineage. -/
theorem Distinct.chain_of_lineage (distinct : forest.Distinct)
    (lineage : (above, node) ∈ forest.lineages) :
    Chain (fun node => forest.parent? node.id) node above := by
  induction above generalizing node with
  | nil => exact .ends (distinct.parent?_of_lineage lineage)
  | cons parent above inductionHypothesis =>
    exact .goes (distinct.parent?_of_lineage lineage)
      (inductionHypothesis (parent_of_lineage lineage).1)

theorem mem_children_of_lineage (lineage : (above, node) ∈ forest.lineages)
    (isAbove : ancestor ∈ above) : node ∈ ancestor.children.nodes := by
  induction above generalizing node with
  | nil => cases isAbove
  | cons parent above inductionHypothesis =>
    obtain ⟨parentLineage, isChild⟩ := parent_of_lineage lineage
    have below := mem_nodes_of_mem_roots isChild
    rcases List.mem_cons.mp isAbove with rfl | higher
    · exact below
    · exact mem_nodes_of_mem_children (inductionHypothesis parentLineage higher) below

theorem mem_nodes_of_mem_lineage (lineage : (above, node) ∈ forest.lineages)
    (isAbove : ancestor ∈ above) : ancestor ∈ forest.nodes := by
  induction above generalizing node with
  | nil => cases isAbove
  | cons parent above inductionHypothesis =>
    obtain ⟨parentLineage, -⟩ := parent_of_lineage lineage
    rcases List.mem_cons.mp isAbove with rfl | higher
    · exact mem_nodes_of_mem_lineages parentLineage
    · exact inductionHypothesis parentLineage higher

/-- Motion to the left leads up the lineage as far as asked, at most to the root. -/
theorem Distinct.parentMotion?_eq (distinct : forest.Distinct)
    (lineage : (above, node) ∈ forest.lineages) {count : Nat} (positive : 0 < count) :
    forest.parentMotion? node count = (above[min count above.length - 1]?).map .to := by
  rw [parentMotion?, distinct.parent?_of_lineage lineage]
  cases above with
  | nil => rfl
  | cons parent above =>
    have chain := distinct.chain_of_lineage (parent_of_lineage lineage).1
    have sameIndex : min count (parent :: above).length - 1 = min (count - 1) above.length := by
      rw [List.length_cons]
      omega
    rw [sameIndex, chain.reaches, ← climb_eq_repeated]
    rfl

end Forest

/-! ### Going down -/

theorem isSome_foldl_nearer {candidates : List (Node × Float)} {best : Option (Node × Float)}
    (known : best.isSome = true) : (candidates.foldl nearer best).isSome = true := by
  induction candidates generalizing best with
  | nil => exact known
  | cons candidate rest inductionHypothesis =>
    refine inductionHypothesis ?_
    unfold nearer
    split
    · split
      · exact known
      · rfl
    · rfl

/-- Some candidate is the nearest if there is any, whatever the distances are. -/
theorem nearest_eq_none_iff {candidates : List (Node × Float)} :
    nearest candidates = none ↔ candidates = [] := by
  cases candidates with
  | nil => simp [nearest]
  | cons candidate rest =>
    have known : (rest.foldl nearer (some candidate)).isSome = true := isSome_foldl_nearer rfl
    have found : (nearest (candidate :: rest)).isSome = true := by
      rw [nearest, Option.isSome_map]
      exact known
    simp [← Option.not_isSome_iff_eq_none, found]

namespace Node

variable {node below : Node} {path : List Node}

theorem closestChild?_eq_none_iff : node.closestChild? = none ↔ node.hasChildren = false := by
  rw [closestChild?, nearest_eq_none_iff, List.map_eq_nil_iff, hasChildren]
  cases node.children <;> simp [Forest.roots, Forest.isEmpty]

/-- Going down leads along the chain of closest children and leaves its collapsed nodes. -/
theorem descend_eq (chain : Chain closestChild? node path) (count : Nat) :
    node.descend count = ((repeated closestChild? node count).1,
      (((node :: path).take (min count path.length)).filter (·.collapsed)).map (·.id)) := by
  induction chain generalizing count with
  | ends last => cases count <;> simp [descend, repeated, last]
  | goes leads _ inductionHypothesis =>
    cases count with
    | zero => simp [descend, repeated]
    | succ count =>
      rw [List.length_cons, Nat.add_min_add_right, List.take_succ_cons, List.filter_cons]
      simp only [descend, repeated, leads, inductionHypothesis]
      split <;> rfl

theorem mem_children_of_chain (chain : Chain closestChild? node path) (inPath : below ∈ path) :
    below ∈ node.children.nodes := by
  induction chain with
  | ends => cases inPath
  | goes leads _ inductionHypothesis =>
    have isChild := Forest.mem_nodes_of_mem_roots (mem_of_closestChild? leads)
    rcases List.mem_cons.mp inPath with rfl | later
    · exact isChild
    · exact Forest.mem_nodes_of_mem_children isChild (inductionHypothesis later)

end Node

namespace Forest

variable {forest : Forest} {node : Node}

/-- The closest children below a node are a chain, shorter than the outline has levels. -/
theorem exists_chain_of_closest (inForest : node ∈ forest.nodes) :
    ∃ path, Chain Node.closestChild? node path ∧ path.length < forest.levels := by
  induction forest generalizing node with
  | nil => cases inForest
  | cons item children rest childrenHypothesis restHypothesis =>
    rw [levels]
    simp only [nodes, List.mem_cons, List.mem_append] at inForest
    rcases inForest with rfl | inside | later
    · cases closest : (⟨item, children⟩ : Node).closestChild? with
      | none =>
        refine ⟨[], .ends closest, ?_⟩
        rw [List.length_nil]
        omega
      | some child =>
        have isChild := mem_nodes_of_mem_roots (Node.mem_of_closestChild? closest)
        obtain ⟨path, chain, shorter⟩ := childrenHypothesis isChild
        refine ⟨child :: path, .goes closest chain, ?_⟩
        rw [List.length_cons]
        omega
    · obtain ⟨path, chain, shorter⟩ := childrenHypothesis inside
      exact ⟨path, chain, by omega⟩
    · obtain ⟨path, chain, shorter⟩ := restHypothesis later
      exact ⟨path, chain, by omega⟩

/-- Motion to the right leads along the closest children as far as asked, at most to the last. -/
theorem childMotion?_eq {path : List Node} (chain : Chain Node.closestChild? node path)
    (branches : node.hasChildren = true) (count : Nat) :
    ∃ reached, (node :: path)[min count path.length]? = some reached ∧
      childMotion? node count = some ⟨reached.id,
        (((node :: path).take (min count path.length)).filter (·.collapsed)).map (·.id)⟩ := by
  refine ⟨_, chain.reaches count, ?_⟩
  rw [childMotion?, Node.descend_eq chain]
  cases closest : node.closestChild? with
  | none =>
    rw [Node.closestChild?_eq_none_iff.mp closest] at branches
    cases branches
  | some child => rfl

theorem childMotion?_of_leaf (leaf : node.hasChildren = false) (count : Nat) :
    childMotion? node count = none := by
  rw [childMotion?, Node.closestChild?_eq_none_iff.mpr leaf]

end Forest

end MindMap
