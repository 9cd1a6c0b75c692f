import Mathlib.Data.List.Induction
import MindMap.Proofs.Decimal.Order
import MindMap.Proofs.Motions.Repetition
import MindMap.Proofs.Outline.Traversals

/-!
# The nearest on the plane

Where the plane decides, the first of the best wins: `closestChild?` takes the first of the children
whose height differs least, and a motion that the tree offers nothing to takes the first of the visible
nodes beyond the gate that has the least score. The two scans are one fold, `nearer`, which after every
candidate holds the first least one so far; that is the invariant of `firstLeast_of_foldl_nearer`.

Distances are doubles. The scans compare them and the order of doubles is total on all but NaN, so the
one thing asked of them is that no distance that is looked at is NaN. Whether anything is chosen at all
does not even hang on that.
-/

namespace MindMap

variable {α β : Type} {value : α → Float} {candidates : List α} {chosen other : α}

/-- The first of the candidates whose value is least: what comes before is greater, and what comes
after is not less. -/
def FirstLeast (value : α → Float) (candidates : List α) (chosen : α) : Prop :=
  ∃ before after, candidates = before ++ chosen :: after ∧
    (∀ other ∈ before, value chosen < value other) ∧ ∀ other ∈ after, value chosen ≤ value other

namespace FirstLeast

theorem mem (first : FirstLeast value candidates chosen) : chosen ∈ candidates := by
  obtain ⟨before, after, rfl, -, -⟩ := first
  simp

/-- There is one first least candidate at most. -/
theorem unique (first : FirstLeast value candidates chosen)
    (second : FirstLeast value candidates other) : chosen = other := by
  obtain ⟨before, after, rfl, greater, atLeast⟩ := first
  obtain ⟨earlier, later, same, greaterThan, atLeastThan⟩ := second
  rcases List.append_eq_append_iff.mp same with ⟨between, rfl, rest⟩ | ⟨between, rfl, rest⟩
  · cases between with
    | nil => exact (List.cons.inj rest).1
    | cons head between =>
      obtain ⟨rfl, rfl⟩ := List.cons.inj rest
      exact absurd (atLeast other (by simp)) (FloatOrder.not_le_of_lt (greaterThan _ (by simp)))
  · cases between with
    | nil => exact (List.cons.inj rest).1.symm
    | cons head between =>
      obtain ⟨rfl, rfl⟩ := List.cons.inj rest
      exact absurd (atLeastThan chosen (by simp)) (FloatOrder.not_le_of_lt (greater _ (by simp)))

/-- What is chosen among images is the image of what is chosen. -/
theorem exists_of_map {value : β → Float} {image : α → β} {chosen : β}
    (first : FirstLeast value (candidates.map image) chosen) :
    ∃ origin, FirstLeast (value ∘ image) candidates origin ∧ image origin = chosen := by
  obtain ⟨before, after, split, greater, atLeast⟩ := first
  obtain ⟨front, rest, rfl, rfl, same⟩ := List.map_eq_append_iff.mp split
  obtain ⟨origin, back, rfl, rfl, rfl⟩ := List.map_eq_cons_iff.mp same
  refine ⟨origin, ⟨front, back, rfl, ?_, ?_⟩, rfl⟩
  · exact fun other member => greater _ (List.mem_map_of_mem member)
  · exact fun other member => atLeast _ (List.mem_map_of_mem member)

/-- One more candidate that is not less changes nothing. -/
theorem concat_of_le (first : FirstLeast value candidates chosen)
    (notLess : value chosen ≤ value other) : FirstLeast value (candidates ++ [other]) chosen := by
  obtain ⟨before, after, rfl, greater, atLeast⟩ := first
  refine ⟨before, after ++ [other], by simp, greater, fun candidate member => ?_⟩
  rcases List.mem_append.mp member with already | isOther
  · exact atLeast candidate already
  · rw [List.mem_singleton.mp isOther]
    exact notLess

/-- One more candidate that is less comes before all of them. -/
theorem concat_of_lt (first : FirstLeast value candidates chosen)
    (less : value other < value chosen) : FirstLeast value (candidates ++ [other]) other := by
  obtain ⟨before, after, rfl, greater, atLeast⟩ := first
  refine ⟨before ++ chosen :: after, [], by simp, fun candidate member => ?_, by simp⟩
  rcases List.mem_append.mp member with isBefore | atOrAfter
  · exact FloatOrder.lt_of_lt_of_le less (FloatOrder.le_of_lt (greater candidate isBefore))
  · rcases List.mem_cons.mp atOrAfter with rfl | isAfter
    · exact less
    · exact FloatOrder.lt_of_lt_of_le less (atLeast candidate isAfter)

end FirstLeast

/-! ### The scan -/

/-- The scan holds the first least candidate of those that it has seen. -/
theorem firstLeast_of_foldl_nearer {candidates : List (Node × Float)} {found : Node × Float}
    (comparable : ∀ candidate ∈ candidates, candidate.2.isNaN = false)
    (result : candidates.foldl nearer none = some found) :
    FirstLeast (·.2) candidates found := by
  -- From the right: the scan of all candidates but the last comes first.
  induction candidates using List.reverseRecOn generalizing found with
  | nil => cases result
  | append_singleton earlier last inductionHypothesis =>
    rw [List.foldl_append, List.foldl_cons, List.foldl_nil] at result
    cases scanned : earlier.foldl nearer none with
    | none =>
      have nothing : earlier = [] := nearest_eq_none_iff.mp (by rw [nearest, scanned]; rfl)
      rw [scanned] at result
      cases result
      exact ⟨[], [], by rw [nothing], by simp, by simp⟩
    | some best =>
      have first : FirstLeast (·.2) earlier best :=
        inductionHypothesis (fun other member => comparable other (by simp [member])) scanned
      have bestNumber := comparable best (by simp [first.mem])
      have lastNumber := comparable last (by simp)
      rw [scanned, nearer] at result
      split at result
      case isTrue notNearer =>
        cases result
        exact first.concat_of_le notNearer
      case isFalse isNearer =>
        cases result
        exact first.concat_of_lt (FloatOrder.lt_of_not_le lastNumber bestNumber isNearer)

/-- The nearest of candidates at comparable distances is the first least one. -/
theorem nearest_map_eq_some_iff {distance : Node → Float} {candidates : List Node} {found : Node}
    (comparable : ∀ candidate ∈ candidates, (distance candidate).isNaN = false) :
    nearest (candidates.map fun candidate => (candidate, distance candidate)) = some found ↔
      FirstLeast distance candidates found := by
  have holds {result : Node × Float}
      (scanned : (candidates.map fun candidate => (candidate, distance candidate)).foldl nearer
        none = some result) : FirstLeast distance candidates result.1 := by
    obtain ⟨origin, first, rfl⟩ :=
      (firstLeast_of_foldl_nearer (by simpa using comparable) scanned).exists_of_map
    exact first
  constructor
  · intro isNearest
    obtain ⟨result, scanned, rfl⟩ := Option.map_eq_some_iff.mp isNearest
    exact holds scanned
  · intro first
    cases scanned : (candidates.map fun candidate => (candidate, distance candidate)).foldl nearer
      none with
    | none =>
      have nothing := nearest_eq_none_iff.mp (by rw [nearest, scanned]; rfl)
      rw [List.map_eq_nil_iff.mp nothing] at first
      cases first.mem
    | some result => rw [nearest, scanned, Option.map_some, (holds scanned).unique first]

/-! ### Children -/

namespace Node

variable {node candidate : Node} {direction : Direction} {spatial : Spatial}

/-- How much the height of another node differs. -/
def heightTo (node other : Node) : Float :=
  (other.y - node.y).abs

/-- The closest child is chosen by height, and there is one wherever there are children. -/
structure ChoosesByHeight (node : Node) : Prop where
  none : node.closestChild? = none ↔ node.children.roots = []
  some (comparable : ∀ child ∈ node.children.roots, (node.heightTo child).isNaN = false)
    (child : Node) :
    node.closestChild? = some child ↔ FirstLeast node.heightTo node.children.roots child

theorem choosesByHeight (node : Node) : node.ChoosesByHeight where
  none := by rw [closestChild?, nearest_eq_none_iff, List.map_eq_nil_iff]
  some comparable _ := nearest_map_eq_some_iff comparable

/-! ### Nodes in a direction -/

/-- How far ahead of a node another lies in a direction. -/
def ahead (node : Node) (direction : Direction) (other : Node) : Float :=
  match direction with
  | .right => other.x - node.x
  | .left => -(other.x - node.x)
  | .down => other.y - node.y
  | .up => -(other.y - node.y)

/-- How far aside of a direction from a node another lies. -/
def aside (node : Node) (direction : Direction) (other : Node) : Float :=
  match direction with
  | .left | .right => (other.y - node.y).abs
  | .up | .down => (other.x - node.x).abs

/-- The score of another node: how far ahead it is and, as far as that counts, how far aside. -/
def score (node : Node) (direction : Direction) (spatial : Spatial) (other : Node) : Float :=
  node.ahead direction other + spatial.crossWeight * node.aside direction other

end Node

namespace Forest

variable {forest : Forest} {id : String} {node : Node} {direction : Direction} {count : Nat}
  {spatial : Spatial}

theorem spatialScore?_eq (node candidate : Node) (direction : Direction) (spatial : Spatial) :
    spatialScore? node candidate direction spatial =
      if spatial.minimum < node.ahead direction candidate then
        some (node.score direction spatial candidate)
      else none := by
  cases direction <;> rfl

/-- The nodes other than a node that are further ahead than the gate, with no collapsed node above
them, in pre-order. -/
def beyond (forest : Forest) (node : Node) (direction : Direction) (spatial : Spatial) :
    List Node :=
  ((forest.shownFrom []).map (·.2)).filter fun other =>
    other.id ≠ node.id ∧ spatial.minimum < node.ahead direction other

theorem spatialTarget?_eq (forest : Forest) (node : Node) (direction : Direction)
    (spatial : Spatial) :
    forest.spatialTarget? node direction spatial =
      nearest ((forest.beyond node direction spatial).map fun other =>
        (other, node.score direction spatial other)) := by
  rw [spatialTarget?, beyond, ← visible_eq, ← List.filterMap_eq_map, List.filterMap_filter]
  congr 2
  funext other
  by_cases same : other.id = node.id
  · simp [same]
  · by_cases passes : spatial.minimum < node.ahead direction other <;>
      simp [same, passes, spatialScore?_eq]

/-- Where the tree offers nothing, a motion leads to what nearness chooses. -/
theorem navigate?_of_treeMotion?_eq_none (isNode : forest.find? id = some node)
    (nothing : forest.treeMotion? node direction (max count 1) = none) :
    forest.navigate? id direction count spatial =
      (nearest ((forest.beyond node direction spatial).map fun other =>
        (other, node.score direction spatial other))).map .to := by
  simp [navigate?, isNode, nothing, spatialTarget?_eq]

/-- A motion that is left to the plane leads to the first of the nodes beyond the gate with the least
score, and it leads somewhere wherever there are such nodes. -/
structure ChoosesByScore (forest : Forest) (node : Node) (direction : Direction)
    (spatial : Spatial) (motion : Option Motion) : Prop where
  none : motion = none ↔ forest.beyond node direction spatial = []
  some (comparable : ∀ other ∈ forest.beyond node direction spatial,
      (node.score direction spatial other).isNaN = false) (target : Motion) :
    motion = some target ↔
      ∃ other, FirstLeast (node.score direction spatial) (forest.beyond node direction spatial)
        other ∧ target = .to other

/-- Every choice by distance takes the first of the nearest, be it among the children of a node or,
where the tree offers no motion, among the visible nodes in a direction. -/
theorem chooses_first_least :
    (∀ node : Node, node.ChoosesByHeight) ∧
      ∀ {forest : Forest} {id : String} {node : Node} {direction : Direction} {count : Nat}
        {spatial : Spatial}, forest.find? id = some node →
        forest.treeMotion? node direction (max count 1) = none →
        forest.ChoosesByScore node direction spatial
          (forest.navigate? id direction count spatial) := by
  refine ⟨Node.choosesByHeight, ?_⟩
  intro forest id node direction count spatial isNode nothing
  rw [navigate?_of_treeMotion?_eq_none isNode nothing]
  constructor
  case none => rw [Option.map_eq_none_iff, nearest_eq_none_iff, List.map_eq_nil_iff]
  case some =>
    intro comparable target
    rw [Option.map_eq_some_iff]
    refine exists_congr fun other => ?_
    rw [nearest_map_eq_some_iff comparable, eq_comm (a := target)]

/-- A node as far below `fork` as `highTine` is above it. -/
def lowTine : Node := ({ Item.plain "low" "Low" with y := 50 } : Item).leaf

/-- The first child of `fork`. -/
def highTine : Node := ({ Item.plain "high" "High" with y := -50 } : Item).leaf

/-- A node with two children, both as far from its height. -/
def fork : Node := ⟨Item.plain "fork" "Fork", ofRoots [highTine, lowTine]⟩

/-- A folded branch far to the right of `fork`, with a nearer node in it. -/
def folded : Node :=
  ⟨{ Item.plain "folded" "Folded" with x := 300, collapsed := true },
    ofRoots [({ Item.plain "hidden" "Hidden" with x := 30 } : Item).leaf]⟩

/-- A node to start from, at the height of `fork`. -/
def origin : Node := (Item.plain "origin" "Origin").leaf

/-- A node to the right of `origin` that scores as `level` does, but comes first. -/
def aslant : Node := ({ Item.plain "aslant" "Aslant" with x := 90, y := 20 } : Item).leaf

/-- A node straight to the right of `origin`. -/
def level : Node := ({ Item.plain "level" "Level" with x := 100 } : Item).leaf

/-- Nodes to the right of `origin`, one of them just at the gate. -/
def scattered : Forest :=
  ofRoots [fork, origin, folded,
    ({ Item.plain "close" "Close" with x := 20 } : Item).leaf, aslant, level]

/-- Of two equally near nodes the first is chosen, among children and in a direction, and neither what
is hidden nor what is at the gate. -/
theorem first_of_equally_near :
    fork.closestChild? = some highTine ∧
      scattered.find? "origin" = some origin ∧ scattered.treeMotion? origin .right 1 = none ∧
      scattered.beyond origin .right .standard = [folded, aslant, level] ∧
      scattered.navigate? "origin" .right 1 .standard = some (.to aslant) := by
  have highest : FirstLeast fork.heightTo fork.children.roots highTine :=
    ⟨[], [lowTine], rfl, by decide, by decide⟩
  have isNode : scattered.find? "origin" = some origin := rfl
  have nothing : scattered.treeMotion? origin .right 1 = none := rfl
  have candidates : scattered.beyond origin .right .standard = [folded, aslant, level] := rfl
  have nearestNode : FirstLeast (origin.score .right .standard) [folded, aslant, level] aslant :=
    ⟨[folded], [level], rfl, by decide, by decide⟩
  obtain ⟨byHeight, byScore⟩ := chooses_first_least
  have choice : scattered.ChoosesByScore origin .right .standard
      (scattered.navigate? "origin" .right 1 .standard) := byScore isNode nothing
  rw [← candidates] at nearestNode
  exact ⟨((byHeight fork).some (by decide) _).mpr highest, isNode, nothing, candidates,
    (choice.some (by rw [candidates]; decide) _).mpr ⟨aslant, nearestNode, rfl⟩⟩

end Forest

end MindMap
