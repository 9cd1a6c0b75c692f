import MindMap.Outline.Forest

/-!
# Walks through an outline

An outline can be gone through one node at a time, so that whoever looks for a node can stop when it
is found. The nodes to come lie on a stack, the next one on top. A node that is passed leaves its
children on the stack, the last of them first, if the walk enters it; a walk that enters every node
passes all of them, and one that enters no collapsed node passes the visible ones.
-/

namespace MindMap

namespace Forest

theorem size_ofRoots_append (first second : List Node) :
    (ofRoots (first ++ second)).size = (ofRoots first).size + (ofRoots second).size := by
  induction first with
  | nil => simp [ofRoots, size]
  | cons node first inductionHypothesis =>
    rw [List.cons_append, ofRoots, ofRoots, size, size, inductionHypothesis, ← Nat.add_assoc]

end Forest

/-- A walk through an outline: the nodes to come, the next one last. -/
structure Walk where
  stack : Array Node

namespace Walk

/-- The walk that begins at the first root. -/
def start (forest : Forest) : Walk := ⟨forest.roots.reverse.toArray⟩

/-- Pass the next node. Its children come before the other nodes if the walk enters it. -/
def next? (enters : Node → Bool) (walk : Walk) : Option (Node × Walk) :=
  match walk.stack.back? with
  | none => none
  | some node =>
    let others := walk.stack.pop
    some (node, ⟨if enters node then others ++ node.children.roots.reverse.toArray else others⟩)

/-- The nodes on the stack, the next one first. -/
def toCome (walk : Walk) : List Node := walk.stack.toList.reverse

/-- The number of nodes in the subtrees to come. -/
def size (walk : Walk) : Nat := (Forest.ofRoots walk.toCome).size

variable {enters : Node → Bool} {walk later : Walk} {node : Node}

theorem toCome_start (forest : Forest) : (start forest).toCome = forest.roots := by
  simp [toCome, start]

theorem next?_eq_none_iff : walk.next? enters = none ↔ walk.toCome = [] := by
  unfold next? toCome
  rw [← Array.getLast?_toList]
  cases empty : walk.stack.toList.getLast? with
  | none => simpa using List.getLast?_eq_none_iff.mp empty
  | some node =>
    obtain ⟨others, whole⟩ := List.getLast?_eq_some_iff.mp empty
    simp [whole]

/-- The node that is passed came first, and its children, if they are entered, come next. -/
theorem toCome_of_next? (next : walk.next? enters = some (node, later)) :
    ∃ others, walk.toCome = node :: others ∧
      later.toCome = (if enters node then node.children.roots else []) ++ others := by
  unfold next? at next
  split at next
  · cases next
  · next top isTop =>
    cases next
    rw [← Array.getLast?_toList] at isTop
    obtain ⟨below, whole⟩ := List.getLast?_eq_some_iff.mp isTop
    refine ⟨below.reverse, by simp [toCome, whole], ?_⟩
    unfold toCome
    split <;> simp [whole]

/-- Every node that is passed makes the walk shorter. -/
theorem size_lt_of_next? (next : walk.next? enters = some (node, later)) :
    later.size < walk.size := by
  obtain ⟨others, before, after⟩ := toCome_of_next? next
  have passed : walk.size = 1 + node.children.size + (Forest.ofRoots others).size := by
    rw [size, before]
    rfl
  have entered : (Forest.ofRoots (if enters node then node.children.roots else [])).size ≤
      node.children.size := by
    split
    · exact Nat.le_of_eq (congrArg Forest.size node.children.ofRoots_roots)
    · exact Nat.zero_le _
  rw [passed, size, after, Forest.size_ofRoots_append]
  omega

/-- All nodes that the walk passes. -/
def toList (enters : Node → Bool) (walk : Walk) : List Node :=
  match _passing : walk.next? enters with
  | none => []
  | some (node, later) => node :: later.toList enters
termination_by walk.size
decreasing_by exact size_lt_of_next? ‹_›

/-- The first node of the walk with a property. The walk ends there. -/
def find? (wanted : Node → Bool) (enters : Node → Bool) (walk : Walk) : Option Node :=
  match _passing : walk.next? enters with
  | none => none
  | some (node, later) => if wanted node then some node else later.find? wanted enters
termination_by walk.size
decreasing_by exact size_lt_of_next? ‹_›

end Walk

end MindMap
