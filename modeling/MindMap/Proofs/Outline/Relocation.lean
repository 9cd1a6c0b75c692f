import MindMap.Proofs.Outline.Ancestors
import MindMap.Proofs.Outline.Edits

/-!
# Moving, inserting and removing subtrees

Where the ids of an outline are distinct, a slot determines the outline without its subtree and the
other way round: `Inserts.take?` and `Inserts.place?`. So an insertion and a removal cancel out, and
a move, which is one after the other, relocates one subtree and nothing else.

Both look-ups search the roots before what lies below them. With distinct ids an id is in one part
of the outline only, and the order of the search does not show.
-/

namespace MindMap

namespace Forest

variable {forest others placed smaller larger : Forest} {node : Node} {id target : String}
  {placement : Placement} {above : Option Item} {left right : List Node}

/-! ### Siblings -/

/-- The children of a node, or the roots. -/
def siblingsUnder (forest : Forest) : Option Node → Forest
  | none => forest
  | some parent => parent.children

/-- A node stands behind the siblings on its left and before those on its right. They are the
children of a node of the forest, or the roots. -/
structure StandsBetween (forest : Forest) (above : Option Node) (left : List Node) (node : Node)
    (right : List Node) : Prop where
  parent : ∀ parent ∈ above, parent ∈ forest.nodes
  siblings : (forest.siblingsUnder above).roots = left ++ node :: right

/-- A node stands directly before the target, directly after it, or as the last of its children. -/
def StandsAt (forest : Forest) (node : Node) (target : String) (placement : Placement) : Prop :=
  ∃ above left right, forest.StandsBetween above left node right ∧
    placement.Meets target (above.map (·.toItem)) left right

/-- A child of a node is one wherever that node is. -/
theorem StandsBetween.mono {parent : Node} {whole : Forest}
    (stands : forest.StandsBetween (some parent) left node right)
    (inside : ∀ member ∈ forest.nodes, member ∈ whole.nodes) :
    whole.StandsBetween (some parent) left node right where
  parent := fun parent isParent => inside parent (stands.parent parent isParent)
  siblings := stands.siblings

/-- A subtree stands in the slot that it was put into. -/
theorem Inserts.standsBetween (inserts : Inserts node left right above smaller larger) :
    ∃ parent : Option Node, parent.map (·.toItem) = above ∧
      larger.StandsBetween parent left node right := by
  induction inserts with
  | roots => exact ⟨none, rfl, by simp, roots_ofRoots _⟩
  | children item rest =>
    exact ⟨some ⟨item, ofRoots (left ++ node :: right)⟩, rfl, by simp [nodes], roots_ofRoots _⟩
  | deeper item rest _ inductionHypothesis =>
    obtain ⟨_, same, stands⟩ := inductionHypothesis
    obtain ⟨parent, rfl, rfl⟩ := Option.map_eq_some_iff.mp same
    exact ⟨some parent, rfl, stands.mono fun member inside => by simp [nodes, inside]⟩
  | beside item children _ inductionHypothesis =>
    obtain ⟨_, same, stands⟩ := inductionHypothesis
    obtain ⟨parent, rfl, rfl⟩ := Option.map_eq_some_iff.mp same
    exact ⟨some parent, rfl, stands.mono fun member inside => by simp [nodes, inside]⟩

/-- Whatever stands in a slot can have been put there. -/
theorem StandsBetween.exists_inserts {above : Option Node}
    (stands : forest.StandsBetween above left node right) :
    ∃ others, Inserts node left right (above.map (·.toItem)) others forest := by
  cases above with
  | none => exact ⟨ofRoots (left ++ right), .of_roots (roots_ofRoots _) stands.siblings⟩
  | some parent =>
    have member := stands.parent parent rfl
    have siblings : parent.children.roots = left ++ node :: right := stands.siblings
    clear stands
    induction forest with
    | nil => cases member
    | cons item children rest childrenHypothesis restHypothesis =>
      simp only [nodes, List.mem_cons, List.mem_append] at member
      rcases member with rfl | inside | later
      · exact ⟨cons item (ofRoots (left ++ right)) rest,
          (Inserts.of_roots (roots_ofRoots _) siblings).under item rest⟩
      · obtain ⟨others, inserts⟩ := childrenHypothesis inside
        exact ⟨_, inserts.deeper item rest⟩
      · obtain ⟨others, inserts⟩ := restHypothesis later
        exact ⟨_, inserts.beside item children⟩

/-! ### Where an id is looked for -/

theorem take?_eq_none_iff : forest.take? id = none ↔ id ∉ forest.ids := by
  rw [← Option.not_isSome_iff_eq_none, isSome_take?, contains_iff_mem_ids]

theorem place?_eq_none_iff : forest.place? node target placement = none ↔ target ∉ forest.ids := by
  rw [← Option.not_isSome_iff_eq_none, isSome_place?, contains_iff_mem_ids]

theorem mem_ids_of_take? (taken : forest.take? id = some (node, others)) : id ∈ forest.ids := by
  rw [← contains_iff_mem_ids, ← isSome_take?, taken]
  rfl

theorem mem_ids_of_place? (found : forest.place? node target placement = some placed) :
    target ∈ forest.ids := by
  rw [← contains_iff_mem_ids, ← isSome_place? forest node target placement, found]
  rfl

theorem take?_self (item : Item) (children rest : Forest) :
    (cons item children rest).take? item.id = some (⟨item, children⟩, rest) := by
  simp [take?, takeRoot?]

theorem place?_self (item : Item) (children rest : Forest) (node : Node) (placement : Placement) :
    (cons item children rest).place? node item.id placement = some (match placement with
      | .before => push node (cons item children rest)
      | .after => cons item children (push node rest)
      | .child => cons item (children.snoc node) rest) := by
  cases placement <;> simp [place?, placeAtRoot?]

namespace Apart

variable {item : Item} {children rest : Forest} (apart : Apart item children rest)

include apart

/-- What can be taken out below the first root is taken out there. -/
theorem take?_below (taken : children.take? id = some (node, smaller)) :
    (cons item children rest).take? id = some (node, cons item smaller rest) := by
  have below := mem_ids_of_take? taken
  have notRoot : item.id ≠ id := fun same => apart.notBelow (same ▸ below)
  obtain ⟨notRootBeside, -⟩ := Option.or_eq_none_iff.mp
    (take?_eq_none_iff.mpr (apart.differ id below))
  unfold take? at taken
  simp [take?, takeRoot?, takeBelow?, notRoot, notRootBeside, taken]

/-- What can be taken out beside the first root is taken out there. -/
theorem take?_beside (taken : rest.take? id = some (node, smaller)) :
    (cons item children rest).take? id = some (node, cons item children smaller) := by
  have beside := mem_ids_of_take? taken
  have notRoot : item.id ≠ id := fun same => apart.notBeside (same ▸ beside)
  have notBelow : (children.takeRoot? id).or (children.takeBelow? id) = none :=
    take?_eq_none_iff.mpr fun below => apart.differ id below beside
  rcases Option.or_eq_some_iff.mp taken with atRoot | ⟨notAtRoot, deeper⟩
  · simp [take?, takeRoot?, notRoot, atRoot]
  · simp [take?, takeRoot?, takeBelow?, notRoot, notAtRoot, notBelow, deeper]

/-- What can be placed below the first root is placed there. -/
theorem place?_below (found : children.place? node target placement = some larger) :
    (cons item children rest).place? node target placement = some (cons item larger rest) := by
  have below := mem_ids_of_place? found
  have notRoot : item.id ≠ target := fun same => apart.notBelow (same ▸ below)
  have notBeside : rest.place? node target placement = none :=
    place?_eq_none_iff.mpr (apart.differ target below)
  obtain ⟨notRootBeside, -⟩ := Option.or_eq_none_iff.mp notBeside
  unfold place? at found
  simp [place?, placeAtRoot?, placeBelow?, notRoot, notRootBeside, found]

/-- What can be placed beside the first root, or below what is there, is placed there. -/
theorem place?_beside (found : rest.place? node target placement = some larger) :
    (cons item children rest).place? node target placement = some (cons item children larger) := by
  have beside := mem_ids_of_place? found
  have notRoot : item.id ≠ target := fun same => apart.notBeside (same ▸ beside)
  have notBelow : (children.placeAtRoot? node target placement).or
      (children.placeBelow? node target placement) = none :=
    place?_eq_none_iff.mpr fun below => apart.differ target below beside
  rcases Option.or_eq_some_iff.mp found with atRoot | ⟨notAtRoot, deeper⟩
  · simp [place?, placeAtRoot?, notRoot, atRoot]
  · simp [place?, placeAtRoot?, placeBelow?, notRoot, notAtRoot, notBelow, deeper]

end Apart

/-! ### Slots of outlines with distinct ids -/

theorem take?_ofRoots (distinct : (ofRoots (left ++ node :: right)).Distinct) :
    (ofRoots (left ++ node :: right)).take? node.id = some (node, ofRoots (left ++ right)) := by
  induction left with
  | nil => exact take?_self node.toItem node.children (ofRoots right)
  | cons first left inductionHypothesis =>
    exact distinct.apart.take?_beside (inductionHypothesis distinct.apart.restDistinct)

/-- Where ids are distinct, taking out the subtree that was inserted leaves what was there before. -/
theorem Inserts.take? (inserts : Inserts node left right above smaller larger)
    (distinct : larger.Distinct) : larger.take? node.id = some (node, smaller) := by
  induction inserts with
  | roots => exact take?_ofRoots distinct
  | children item rest =>
    exact distinct.apart.take?_below (take?_ofRoots distinct.apart.childrenDistinct)
  | deeper item rest _ inductionHypothesis =>
    exact distinct.apart.take?_below (inductionHypothesis distinct.apart.childrenDistinct)
  | beside item children _ inductionHypothesis =>
    exact distinct.apart.take?_beside (inductionHypothesis distinct.apart.restDistinct)

/-- What can be placed among some roots is placed there if more roots come before them. -/
theorem place?_behind {tail : List Node}
    (found : (ofRoots tail).place? node target placement = some placed)
    (distinct : (ofRoots (left ++ tail)).Distinct) :
    (ofRoots (left ++ tail)).place? node target placement =
      some (ofRoots (left ++ placed.roots)) := by
  induction left with
  | nil => simpa using found
  | cons first left inductionHypothesis =>
    exact distinct.apart.place?_beside (inductionHypothesis distinct.apart.restDistinct)

theorem place?_ofRoots (meets : placement.Meets target none left right)
    (distinct : (ofRoots (left ++ right)).Distinct) :
    (ofRoots (left ++ right)).place? node target placement =
      some (ofRoots (left ++ node :: right)) := by
  cases meets with
  | @before _ _ right next =>
    have found : (ofRoots (next :: right)).place? node next.id .before =
        some (push node (ofRoots (next :: right))) := place?_self ..
    simpa [roots, push] using place?_behind found distinct
  | @after _ left right previous =>
    have found : (ofRoots (previous :: right)).place? node previous.id .after =
        some (cons previous.toItem previous.children (push node (ofRoots right))) := place?_self ..
    rw [List.append_assoc] at distinct ⊢
    simpa [roots, push] using place?_behind found distinct

/-- Where ids are distinct, a placement puts the subtree into the slot that it asks for. -/
theorem Inserts.place? (inserts : Inserts node left right above smaller larger)
    (meets : placement.Meets target above left right) (distinct : smaller.Distinct) :
    smaller.place? node target placement = some larger := by
  induction inserts with
  | roots => exact place?_ofRoots meets distinct
  | children item rest =>
    cases meets with
    | before =>
      exact distinct.apart.place?_below (place?_ofRoots .before distinct.apart.childrenDistinct)
    | after =>
      exact distinct.apart.place?_below (place?_ofRoots .after distinct.apart.childrenDistinct)
    | child =>
      have atEnd : Inserts node left [] none (ofRoots (left ++ [])) (ofRoots (left ++ [node])) :=
        .roots
      rw [atEnd.eq_snoc]
      exact place?_self item _ rest node .child
  | deeper item rest _ inductionHypothesis =>
    exact distinct.apart.place?_below (inductionHypothesis meets distinct.apart.childrenDistinct)
  | beside item children _ inductionHypothesis =>
    exact distinct.apart.place?_beside (inductionHypothesis meets distinct.apart.restDistinct)

end Forest

/-! ### Inserting and removing -/

namespace Edit

variable {forest others larger : Forest} {node : Node} {id target : String}
  {placement : Placement}

theorem run_remove_eq_ok_iff :
    (remove id).run forest = .ok node others ↔ forest.take? id = some (node, others) := by
  rw [run_remove]
  cases forest.take? id with
  | none => simp
  | some taken => simp [Prod.ext_iff]

/-- What was inserted somewhere can be inserted there. -/
theorem run_insert_of_inserts {above : Option Item} {left right : List Node}
    (inserts : Forest.Inserts node left right above others forest)
    (meets : placement.Meets target above left right) (distinct : forest.Distinct) :
    (insert node target placement).run others = .ok () forest := by
  obtain ⟨nodup, leftDistinct, absent⟩ := inserts.divides.distinct_iff.mp distinct
  have place := inserts.place? meets leftDistinct
  obtain ⟨placed, samePlace, run⟩ :=
    run_insert_of_fresh (Forest.mem_ids_of_place? place) ⟨nodup, absent⟩ placement
  rw [place] at samePlace
  cases samePlace
  exact run

/-- Put a subtree back between the siblings that it had: before the next one, else after the one
before it, else as a child of the parent, else as a root. -/
def putBack (above : Option Node) (left : List Node) (node : Node) : List Node → Edit Unit
  | next :: _ => insert node next.id .before
  | [] =>
    match left.getLast?, above with
    | some previous, _ => insert node previous.id .after
    | none, some parent => insert node parent.id .child
    | none, none => pushRoot node

theorem run_putBack {above : Option Node} {left right : List Node}
    (inserts : Forest.Inserts node left right (above.map (·.toItem)) others forest)
    (distinct : forest.Distinct) :
    (putBack above left node right).run others = .ok () forest := by
  cases right with
  | cons next right => exact run_insert_of_inserts inserts .before distinct
  | nil =>
    rcases left.eq_nil_or_concat with rfl | ⟨left, previous, rfl⟩
    · cases above with
      | some parent => exact run_insert_of_inserts inserts .child distinct
      | none =>
        obtain ⟨nodup, -, absent⟩ := inserts.divides.distinct_iff.mp distinct
        rw [inserts.eq_snoc]
        exact run_pushRoot_of_fresh ⟨nodup, absent⟩
    · rw [List.concat_eq_append] at inserts ⊢
      simpa [putBack] using run_insert_of_inserts inserts .after distinct

end Edit

namespace Forest

variable {forest : Forest}

/-- All that can come of moving a node to a target. What is missing is told before anything else,
the node first; and where a move is refused, the outline is as it was. -/
structure Relocates (forest : Forest) (id target : String) (placement : Placement) : Prop where
  nodeMissing : id ∉ forest.ids →
    (Edit.move id target placement).run forest = .error (.notFound id) forest
  targetMissing : id ∈ forest.ids → target ∉ forest.ids →
    (Edit.move id target placement).run forest = .error (.notFound target) forest
  intoSubtree : ∀ node, forest.find? id = some node → target ∈ node.ids →
    (Edit.move id target placement).run forest = .error (.intoSubtree id target) forest
  /-- In all other cases the subtree is taken out and a place for it is found in what is left, so it
  is never kept as a last root for want of one. Taking it out again leaves the same. -/
  moves : ∀ node, forest.find? id = some node → target ∈ forest.ids → target ∉ node.ids →
    ∃ others moved, (Edit.remove id).run forest = .ok node others ∧
      others.place? node target placement = some moved ∧
      (Edit.move id target placement).run forest = .ok () moved ∧
      (Edit.remove id).run moved = .ok node others ∧ moved.StandsAt node target placement

/-- A move relocates one subtree and nothing else. -/
theorem Distinct.relocates (distinct : forest.Distinct) (id target : String)
    (placement : Placement) : forest.Relocates id target placement := by
  constructor
  case nodeMissing => exact fun absent => Edit.run_move_of_absent absent target placement
  case targetMissing => exact fun present absent => Edit.run_move_of_target_absent present absent _
  case intoSubtree =>
    intro node found inside
    obtain ⟨inForest, -⟩ := mem_nodes_of_find? found
    have present : target ∈ forest.ids := mem_ids_of_mem_node inForest inside
    exact Edit.run_move_into_subtree found present inside placement
  case moves =>
    intro node found present outside
    obtain ⟨others, moved, take, place, run⟩ :=
      Edit.run_move_of_outside distinct found present outside placement
    obtain ⟨divides, sameId⟩ := divides_of_take? take
    obtain ⟨above, left, right, inserts, meets⟩ := inserts_of_place? place
    have movedDistinct : moved.Distinct :=
      inserts.divides.distinct_iff.mpr (divides.distinct_iff.mp distinct)
    obtain ⟨parent, rfl, stands⟩ := inserts.standsBetween
    refine ⟨others, moved, Edit.run_remove_eq_ok_iff.mpr take, place, run, ?_, parent, left, right,
      stands, meets⟩
    rw [Edit.run_remove_eq_ok_iff, ← sameId]
    exact inserts.take? movedDistinct

/-- The last of two leaves. -/
def lastLeaf : Node := (Item.plain "leaf" "Leaf").leaf

/-- A branch with two leaves. -/
def bough : Node := ⟨.plain "bough" "Bough", ofRoots [(Item.plain "twig" "Twig").leaf, lastLeaf]⟩

/-- What is left of another branch. -/
def stump : Node := (Item.plain "stump" "Stump").leaf

/-- What has not grown yet. -/
def shoot : Node := (Item.plain "shoot" "Shoot").leaf

/-- A tree with both branches, beside another tree. -/
def grove : Forest :=
  ofRoots [⟨.plain "oak" "Oak", ofRoots [bough, stump]⟩, (Item.plain "elm" "Elm").leaf]

theorem distinct_grove : grove.Distinct := by decide

/-- A branch that is moved behind its next sibling takes that sibling's place. -/
theorem relocates_bough :
    grove.Distinct ∧ ∃ others moved, (Edit.move "bough" "stump" .after).run grove = .ok () moved ∧
      moved.ids = ["oak", "stump", "bough", "twig", "leaf", "elm"] ∧
      (Edit.remove "bough").run moved = .ok bough others ∧ moved.StandsAt bough "stump" .after := by
  obtain ⟨others, moved, -, -, run, removed, stands⟩ :=
    (distinct_grove.relocates "bough" "stump" .after).moves bough rfl (by decide) (by decide)
  have ids : moved.ids = ["oak", "stump", "bough", "twig", "leaf", "elm"] := by
    cases run
    rfl
  exact ⟨distinct_grove, others, moved, run, ids, removed, stands⟩

/-- Inserting and removing cancel out. A subtree that was inserted can be removed, and a subtree
that was removed can be put back between the siblings that it had, and either way the outline is
what it was before. -/
theorem Distinct.insertions_and_removals_cancel (distinct : forest.Distinct) :
    (∀ node target placement larger,
      (Edit.insert node target placement).run forest = .ok () larger →
        (Edit.remove node.id).run larger = .ok node forest) ∧
    (∀ node larger, (Edit.pushRoot node).run forest = .ok () larger →
      (Edit.remove node.id).run larger = .ok node forest) ∧
    ∀ id node others, (Edit.remove id).run forest = .ok node others →
      node.id = id ∧ (∃ above left right, forest.StandsBetween above left node right) ∧
        ∀ above left right, forest.StandsBetween above left node right →
          (Edit.putBack above left node right).run others = .ok () forest := by
  refine ⟨fun node target placement larger run => ?_, fun node larger run => ?_,
    fun id node others run => ?_⟩
  · obtain ⟨-, -, place⟩ := Edit.place?_of_run_insert run
    obtain ⟨above, left, right, inserts, -⟩ := inserts_of_place? place
    have largerDistinct := (Edit.gains_of_run_insert run).distinct distinct
    exact Edit.run_remove_eq_ok_iff.mpr (inserts.take? largerDistinct)
  · obtain ⟨gains, rfl⟩ := Edit.gains_of_run_pushRoot run
    exact Edit.run_remove_eq_ok_iff.mpr ((Inserts.snoc forest node).take? (gains.distinct distinct))
  · rw [Edit.run_remove_eq_ok_iff] at run
    obtain ⟨sameId, above, left, right, inserts⟩ := inserts_of_take? run
    obtain ⟨parent, -, stands⟩ := inserts.standsBetween
    refine ⟨sameId, ⟨parent, left, right, stands⟩, fun above left right stands => ?_⟩
    obtain ⟨smaller, inserts⟩ := stands.exists_inserts
    -- The slot fixes what was there without the subtree, and so does the id.
    have again := inserts.take? distinct
    rw [sameId, run] at again
    cases again
    exact Edit.run_putBack inserts distinct

/-- A last leaf is put back behind the leaf before it, and a shoot is cleared from the stump. -/
theorem leaf_put_back_and_shoot_cleared :
    (∃ others, (Edit.remove "leaf").run grove = .ok lastLeaf others ∧
      (Edit.insert lastLeaf "twig" .after).run others = .ok () grove) ∧
    ∃ larger, (Edit.insert shoot "stump" .child).run grove = .ok () larger ∧
      (Edit.remove "shoot").run larger = .ok shoot grove := by
  obtain ⟨inserted, -, removed⟩ := distinct_grove.insertions_and_removals_cancel
  obtain ⟨-, -, putBack⟩ := removed "leaf" lastLeaf _ rfl
  have stands : grove.StandsBetween (some bough) [(Item.plain "twig" "Twig").leaf] lastLeaf [] :=
    ⟨by simp [grove, ofRoots, nodes, bough], rfl⟩
  exact ⟨⟨_, rfl, putBack _ _ _ stands⟩, _, rfl, inserted shoot "stump" .child _ rfl⟩

end Forest

end MindMap
