import MindMap.Proofs.Outline.Ids

/-!
# Slots of an outline

A slot lies between two runs of siblings, which are roots or children of one node. `Inserts` relates
an outline to the one that has a subtree more, in a given slot, and is otherwise the same. Taking a
subtree out undoes an insertion, and placing one makes the insertion whose slot `Meets` the
placement; neither needs the ids of the outline to be distinct. That the slot found is the only one
does need it, and is not said here.
-/

namespace MindMap

/-- The slot that a placement asks for at a target: directly before it, directly after it, or behind
the last of its children. -/
inductive Placement.Meets :
    Placement → String → Option Item → List Node → List Node → Prop where
  | before {above : Option Item} {left right : List Node} {next : Node} :
      Meets .before next.id above left (next :: right)
  | after {above : Option Item} {left right : List Node} {previous : Node} :
      Meets .after previous.id above (left ++ [previous]) right
  | child {item : Item} {left : List Node} : Meets .child item.id (some item) left []

/-- Siblings further to the left do not change what a slot among roots is asked for. -/
theorem Placement.Meets.push {placement : Placement} {target : String} {left right : List Node}
    (meets : placement.Meets target none left right) (first : Node) :
    placement.Meets target none (first :: left) right := by
  cases meets with
  | before => exact .before
  | @after _ left right previous => exact @after none (first :: left) right previous

/-- A slot among roots is asked for as it is among the children of a node over them. -/
theorem Placement.Meets.under {placement : Placement} {target : String} {above : Option Item}
    {left right : List Node} (meets : placement.Meets target above left right) (item : Item) :
    placement.Meets target (some (above.getD item)) left right := by
  cases meets with
  | before => exact .before
  | after => exact .after
  | child => exact .child

namespace Forest

variable {forest others placed smaller larger : Forest} {node : Node} {id target : String}
  {placement : Placement} {above : Option Item} {left right : List Node}

/-- The larger outline is the smaller one with a subtree put between the siblings on its left and
those on its right. These are the roots, or the children of a node that has the item `above`. -/
inductive Inserts (node : Node) (left right : List Node) : Option Item → Forest → Forest → Prop where
  | roots : Inserts node left right none (ofRoots (left ++ right)) (ofRoots (left ++ node :: right))
  | children (item : Item) (rest : Forest) :
      Inserts node left right (some item) (cons item (ofRoots (left ++ right)) rest)
        (cons item (ofRoots (left ++ node :: right)) rest)
  | deeper {parent : Item} {smaller larger : Forest} (item : Item) (rest : Forest)
      (inserts : Inserts node left right (some parent) smaller larger) :
      Inserts node left right (some parent) (cons item smaller rest) (cons item larger rest)
  | beside {parent : Item} {smaller larger : Forest} (item : Item) (children : Forest)
      (inserts : Inserts node left right (some parent) smaller larger) :
      Inserts node left right (some parent) (cons item children smaller)
        (cons item children larger)

namespace Inserts

theorem of_roots (without : smaller.roots = left ++ right)
    (within : larger.roots = left ++ node :: right) :
    Inserts node left right none smaller larger := by
  rw [← ofRoots_roots smaller, ← ofRoots_roots larger, without, within]
  exact .roots

theorem roots_eq (inserts : Inserts node left right none smaller larger) :
    smaller.roots = left ++ right ∧ larger.roots = left ++ node :: right := by
  cases inserts
  exact ⟨roots_ofRoots _, roots_ofRoots _⟩

/-- A last root is an insertion among the roots. -/
theorem snoc (forest : Forest) (node : Node) :
    Inserts node forest.roots [] none forest (forest.snoc node) :=
  .of_roots (by simp) (by simp)

theorem eq_snoc (inserts : Inserts node left [] none smaller larger) :
    larger = smaller.snoc node := by
  obtain ⟨without, within⟩ := inserts.roots_eq
  rw [← ofRoots_roots larger, ← ofRoots_roots (smaller.snoc node), roots_snoc, within, without,
    List.append_nil]

/-- An insertion among roots is one behind a further root. -/
theorem push (inserts : Inserts node left right none smaller larger) (item : Item)
    (children : Forest) :
    Inserts node (⟨item, children⟩ :: left) right none (cons item children smaller)
      (cons item children larger) := by
  obtain ⟨without, within⟩ := inserts.roots_eq
  exact .of_roots (by simp [Forest.roots, without]) (by simp [Forest.roots, within])

/-- An insertion into the children of a root is one into the outline. What was among its roots is
then among the children of that root. -/
theorem under (inserts : Inserts node left right above smaller larger) (item : Item)
    (rest : Forest) :
    Inserts node left right (some (above.getD item)) (cons item smaller rest)
      (cons item larger rest) := by
  cases above with
  | none =>
    cases inserts
    exact .children item rest
  | some parent => exact inserts.deeper item rest

end Inserts

/-! ### Taking out -/

theorem inserts_of_takeRoot? (taken : forest.takeRoot? id = some (node, others)) :
    node.id = id ∧ ∃ left right, Inserts node left right none others forest := by
  induction forest generalizing others with
  | nil => cases taken
  | cons item children rest _ inductionHypothesis =>
    unfold takeRoot? at taken
    split at taken
    · next same =>
      cases taken
      exact ⟨same, [], rest.roots, .of_roots rfl rfl⟩
    · obtain ⟨⟨found, left⟩, takenLater, equal⟩ := Option.map_eq_some_iff.mp taken
      cases equal
      obtain ⟨same, before, behind, inserts⟩ := inductionHypothesis takenLater
      exact ⟨same, _, _, inserts.push item children⟩

theorem inserts_of_takeBelow? (taken : forest.takeBelow? id = some (node, others)) :
    node.id = id ∧ ∃ parent left right, Inserts node left right (some parent) others forest := by
  induction forest generalizing others with
  | nil => cases taken
  | cons item children rest childrenHypothesis restHypothesis =>
    unfold takeBelow? at taken
    split at taken
    · next found smaller takenBelow =>
      cases taken
      rcases Option.or_eq_some_iff.mp takenBelow with atRoot | ⟨-, below⟩
      · obtain ⟨same, left, right, inserts⟩ := inserts_of_takeRoot? atRoot
        exact ⟨same, _, left, right, inserts.under item rest⟩
      · obtain ⟨same, parent, left, right, inserts⟩ := childrenHypothesis below
        exact ⟨same, parent, left, right, inserts.under item rest⟩
    · obtain ⟨⟨found, smaller⟩, takenLater, equal⟩ := Option.map_eq_some_iff.mp taken
      cases equal
      obtain ⟨same, parent, left, right, inserts⟩ := restHypothesis takenLater
      exact ⟨same, parent, left, right, inserts.beside item children⟩

/-- A subtree that was taken out has the id that was asked for, and was in some slot. -/
theorem inserts_of_take? (taken : forest.take? id = some (node, others)) :
    node.id = id ∧ ∃ above left right, Inserts node left right above others forest := by
  rcases Option.or_eq_some_iff.mp taken with atRoot | ⟨-, below⟩
  · obtain ⟨same, left, right, inserts⟩ := inserts_of_takeRoot? atRoot
    exact ⟨same, none, left, right, inserts⟩
  · obtain ⟨same, parent, left, right, inserts⟩ := inserts_of_takeBelow? below
    exact ⟨same, some parent, left, right, inserts⟩

/-! ### Placing -/

theorem inserts_of_placeAtRoot? (found : forest.placeAtRoot? node target placement = some placed) :
    ∃ above left right, Inserts node left right above forest placed ∧
      placement.Meets target above left right := by
  induction forest generalizing placed with
  | nil => cases found
  | cons item children rest _ inductionHypothesis =>
    unfold placeAtRoot? at found
    split at found
    · next isTarget =>
      subst isTarget
      cases placement <;> cases found
      case before =>
        exact ⟨none, [], _, .of_roots rfl rfl,
          @Placement.Meets.before none [] rest.roots ⟨item, children⟩⟩
      case after =>
        exact ⟨none, [⟨item, children⟩], rest.roots, .of_roots rfl rfl,
          @Placement.Meets.after none [] rest.roots ⟨item, children⟩⟩
      case child =>
        exact ⟨some item, children.roots, [], (Inserts.snoc children node).under item rest, .child⟩
    · obtain ⟨larger, foundLater, rfl⟩ := Option.map_eq_some_iff.mp found
      obtain ⟨above, left, right, inserts, meets⟩ := inductionHypothesis foundLater
      cases above with
      | none => exact ⟨none, _, right, inserts.push item children, meets.push _⟩
      | some parent => exact ⟨some parent, left, right, inserts.beside item children, meets⟩

theorem inserts_of_placeBelow? (found : forest.placeBelow? node target placement = some placed) :
    ∃ parent left right, Inserts node left right (some parent) forest placed ∧
      placement.Meets target (some parent) left right := by
  induction forest generalizing placed with
  | nil => cases found
  | cons item children rest childrenHypothesis restHypothesis =>
    unfold placeBelow? at found
    split at found
    · next larger foundBelow =>
      cases found
      rcases Option.or_eq_some_iff.mp foundBelow with atRoot | ⟨-, below⟩
      · obtain ⟨above, left, right, inserts, meets⟩ := inserts_of_placeAtRoot? atRoot
        exact ⟨_, left, right, inserts.under item rest, meets.under item⟩
      · obtain ⟨parent, left, right, inserts, meets⟩ := childrenHypothesis below
        exact ⟨parent, left, right, inserts.under item rest, meets⟩
    · obtain ⟨larger, foundLater, rfl⟩ := Option.map_eq_some_iff.mp found
      obtain ⟨parent, left, right, inserts, meets⟩ := restHypothesis foundLater
      exact ⟨parent, left, right, inserts.beside item children, meets⟩

/-- A subtree that was placed was put into a slot that the placement asks for. -/
theorem inserts_of_place? (found : forest.place? node target placement = some placed) :
    ∃ above left right, Inserts node left right above forest placed ∧
      placement.Meets target above left right := by
  rcases Option.or_eq_some_iff.mp found with atRoot | ⟨-, below⟩
  · exact inserts_of_placeAtRoot? atRoot
  · obtain ⟨parent, left, right, inserts, meets⟩ := inserts_of_placeBelow? below
    exact ⟨some parent, left, right, inserts, meets⟩

end Forest

end MindMap
