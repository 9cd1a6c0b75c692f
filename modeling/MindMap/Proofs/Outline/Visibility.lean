import MindMap.Proofs.Outline.Ancestors
import MindMap.Proofs.Outline.Edits

/-!
# Edits and what they hide

What is above a node after an edit of the outline, from what was above it before. An update changes
items and moves none, so what holds above a node afterwards is what the change made hold. Taking a
subtree out puts nothing above what is left. A subtree that is placed comes to lie below its target
and what is above that, or beside its target and only below what is above that.

Only the root of a subtree is followed to its new place; what the subtree hides within itself does
not change.
-/

namespace MindMap

theorem Node.FreshIn.id_not_mem {node : Node} {forest : Forest} (fresh : node.FreshIn forest) :
    node.id ∉ forest.ids :=
  fresh.2 node.id (by simp [Node.ids_eq])

theorem Node.FreshIn.parts {node : Node} {item : Item} {children rest : Forest}
    (fresh : node.FreshIn (.cons item children rest)) :
    node.FreshIn children ∧ node.FreshIn rest := by
  obtain ⟨nodup, absent⟩ := fresh
  refine ⟨⟨nodup, fun id member below => ?_⟩, nodup, fun id member beside => ?_⟩
  · exact absent id member (by simp [below])
  · exact absent id member (by simp [beside])

namespace Forest

variable {forest others placed : Forest} {p : Item → Prop} {id target : String} {node : Node}
  {placement : Placement}

/-! ### Items changed one by one -/

/-- Change every item, each by itself. -/
def mapItems (change : Item → Item) : Forest → Forest
  | nil => nil
  | cons item children rest =>
    cons (change item) (children.mapItems change) (rest.mapItems change)

section

variable {change : Item → Item} (keepsId : ∀ item, (change item).id = item.id)

include keepsId

theorem ids_mapItems (forest : Forest) : (forest.mapItems change).ids = forest.ids := by
  induction forest with
  | nil => rfl
  | cons item children rest childrenHypothesis restHypothesis =>
    rw [mapItems, ids_cons, ids_cons, keepsId, childrenHypothesis, restHypothesis]

/-- What holds above a node after a change is what the change made hold. -/
theorem under_mapItems : (forest.mapItems change).Under p id ↔ forest.Under (p ∘ change) id := by
  induction forest with
  | nil => exact iff_of_false not_under_nil not_under_nil
  | cons item children rest childrenHypothesis restHypothesis =>
    rw [mapItems, under_cons, under_cons, childrenHypothesis, restHypothesis,
      ids_mapItems keepsId]
    rfl

theorem find?_mapItems (forest : Forest) (id : String) :
    (forest.mapItems change).find? id =
      (forest.find? id).map fun node => ⟨change node.toItem, node.children.mapItems change⟩ := by
  induction forest with
  | nil => rfl
  | cons item children rest childrenHypothesis restHypothesis =>
    rw [mapItems, find?, find?, keepsId, childrenHypothesis, restHypothesis]
    split
    · rfl
    · cases children.find? id <;> rfl

end

theorem mapItems_mapItems (first second : Item → Item) (forest : Forest) :
    (forest.mapItems first).mapItems second = forest.mapItems (second ∘ first) := by
  induction forest with
  | nil => rfl
  | cons item children rest childrenHypothesis restHypothesis =>
    rw [mapItems, mapItems, mapItems, childrenHypothesis, restHypothesis]
    rfl

theorem mapItems_of_forall {change : Item → Item}
    (unchanged : ∀ node ∈ forest.nodes, change node.toItem = node.toItem) :
    forest.mapItems change = forest := by
  induction forest with
  | nil => rfl
  | cons item children rest childrenHypothesis restHypothesis =>
    simp only [nodes, List.mem_cons, List.mem_append, or_imp, forall_and, forall_eq] at unchanged
    obtain ⟨root, below, beside⟩ := unchanged
    rw [mapItems, root, childrenHypothesis below, restHypothesis beside]

/-- Change the item with an id. -/
def changeAt (id : String) (update : Update) (item : Item) : Item :=
  if item.id = id then update.apply item else item

theorem id_changeAt (id : String) (update : Update) (item : Item) :
    (changeAt id update item).id = item.id := by
  unfold changeAt
  split <;> rfl

theorem mapItems_changeAt_of_not_mem {update : Update} (absent : id ∉ forest.ids) :
    forest.mapItems (changeAt id update) = forest := by
  refine mapItems_of_forall fun node member => if_neg ?_
  rintro rfl
  exact absent (List.mem_map_of_mem member)

/-- Where ids are distinct, an update changes the items with the id. -/
theorem Distinct.update?_eq (distinct : forest.Distinct) (update : Update)
    (present : id ∈ forest.ids) :
    forest.update? id update = some (forest.mapItems (changeAt id update)) := by
  induction forest with
  | nil => cases present
  | cons item children rest childrenHypothesis restHypothesis =>
    have apart := distinct.apart
    rw [update?, mapItems]
    by_cases same : item.id = id
    · subst same
      rw [if_pos rfl, mapItems_changeAt_of_not_mem apart.notBelow,
        mapItems_changeAt_of_not_mem apart.notBeside, changeAt, if_pos rfl]
    · rw [if_neg same, changeAt, if_neg same]
      by_cases below : id ∈ children.ids
      · rw [childrenHypothesis apart.childrenDistinct below,
          mapItems_changeAt_of_not_mem (apart.differ id below)]
      · have beside : id ∈ rest.ids := by simpa [Ne.symm same, below] using present
        rw [update?_eq_none_iff.mpr (find?_eq_none_iff.mpr below),
          mapItems_changeAt_of_not_mem below, restHypothesis apart.restDistinct beside]
        rfl

/-- What a node hides once it has been collapsed or expanded was hidden before, or lies below the
node. -/
theorem Distinct.hides_of_update? (distinct : forest.Distinct) {updated : Forest} {collapsed : Bool}
    (found : forest.find? target = some node)
    (changed : forest.update? target (.setCollapsed collapsed) = some updated)
    (hidden : updated.Hides id) : forest.Hides id ∨ collapsed = true ∧ id ∈ node.children.ids := by
  rw [distinct.update?_eq _ (mem_ids_of_find? found)] at changed
  cases changed
  rw [Hides, under_mapItems (id_changeAt target _)] at hidden
  obtain ⟨above, inForest, holds, below⟩ := hidden
  by_cases isTarget : above.id = target
  · obtain ⟨nodeInForest, nodeId⟩ := mem_nodes_of_find? found
    obtain rfl := distinct.eq_of_id_eq inForest nodeInForest (isTarget.trans nodeId.symm)
    have collapses : collapsed = true := by
      simpa [changeAt, isTarget, Update.apply, Update.setCollapsed] using holds
    exact .inr ⟨collapses, below⟩
  · have wasCollapsed : above.collapsed = true := by simpa [changeAt, isTarget] using holds
    exact .inl ⟨above, inForest, wasCollapsed, below⟩

/-! ### Taking out and placing -/

/-- Taking a subtree out puts nothing above what is left. -/
theorem under_of_takeRoot? (taken : forest.takeRoot? target = some (node, others))
    (under : others.Under p id) : forest.Under p id := by
  induction forest generalizing others with
  | nil => cases taken
  | cons item children rest _ inductionHypothesis =>
    unfold takeRoot? at taken
    split at taken
    · cases taken
      exact under_cons.mpr (.inr (.inr under))
    · obtain ⟨⟨found, left⟩, takenLater, equal⟩ := Option.map_eq_some_iff.mp taken
      cases equal
      rw [under_cons] at under ⊢
      exact under.imp_right (.imp_right (inductionHypothesis takenLater))

theorem under_of_takeBelow? (taken : forest.takeBelow? target = some (node, others))
    (under : others.Under p id) : forest.Under p id := by
  induction forest generalizing others with
  | nil => cases taken
  | cons item children rest childrenHypothesis restHypothesis =>
    unfold takeBelow? at taken
    split at taken
    · next found left takenBelow =>
      cases taken
      have divides : children.Divides node left := (divides_of_take? takenBelow).1
      have below : left.Under p id → children.Under p id := by
        rcases Option.or_eq_some_iff.mp takenBelow with atRoot | ⟨-, deeper⟩
        · exact under_of_takeRoot? atRoot
        · exact childrenHypothesis deeper
      rw [under_cons] at under ⊢
      exact under.imp (.imp_right fun stays => divides.mem_ids_iff.mpr (.inr stays))
        (.imp_left below)
    · obtain ⟨⟨found, left⟩, takenLater, equal⟩ := Option.map_eq_some_iff.mp taken
      cases equal
      rw [under_cons] at under ⊢
      exact under.imp_right (.imp_right (restHypothesis takenLater))

theorem under_of_take? (taken : forest.take? target = some (node, others))
    (under : others.Under p id) : forest.Under p id := by
  rcases Option.or_eq_some_iff.mp taken with atRoot | ⟨-, below⟩
  · exact under_of_takeRoot? atRoot under
  · exact under_of_takeBelow? below under

theorem not_under_push (fresh : node.FreshIn forest) : ¬(push node forest).Under p node.id := by
  have notBelow : node.id ∉ node.children.ids := by
    have nodup := fresh.1
    rw [Node.ids_eq] at nodup
    exact (List.nodup_cons.mp nodup).1
  rw [push, under_cons_of_not_below notBelow]
  exact fun beside => fresh.id_not_mem beside.mem_ids

theorem not_under_snoc (fresh : node.FreshIn forest) : ¬(forest.snoc node).Under p node.id := by
  induction forest with
  | nil => exact not_under_push fresh
  | cons item children rest _ inductionHypothesis =>
    obtain ⟨freshBelow, freshBeside⟩ := fresh.parts
    rw [snoc, under_cons_of_not_below freshBelow.id_not_mem]
    exact inductionHypothesis freshBeside

/-- The property that is looked for above a new node is not one of the target, if the new node goes
below it. -/
def SparesTarget (p : Item → Prop) (target : String) (placement : Placement) : Prop :=
  placement = .child → ∀ item, item.id = target → ¬p item

/-- A fresh subtree that is placed at a root has at most that root above it. -/
theorem not_under_of_placeAtRoot? (fresh : node.FreshIn forest)
    (spares : SparesTarget p target placement)
    (found : forest.placeAtRoot? node target placement = some placed) :
    ¬placed.Under p node.id := by
  induction forest generalizing placed with
  | nil => cases found
  | cons item children rest _ inductionHypothesis =>
    obtain ⟨freshBelow, freshBeside⟩ := fresh.parts
    unfold placeAtRoot? at found
    split at found
    · next isTarget =>
      cases placement <;> cases found
      case before => exact not_under_push fresh
      case after =>
        rw [under_cons_of_not_below freshBelow.id_not_mem]
        exact not_under_push freshBeside
      case child =>
        rw [under_cons_of_not_beside freshBeside.id_not_mem]
        rintro (⟨holds, -⟩ | below)
        · exact spares rfl item isTarget holds
        · exact not_under_snoc freshBelow below
    · obtain ⟨larger, foundLater, rfl⟩ := Option.map_eq_some_iff.mp found
      rw [under_cons_of_not_below freshBelow.id_not_mem]
      exact inductionHypothesis freshBeside foundLater

theorem under_of_placeBelow? (fresh : node.FreshIn forest)
    (spares : SparesTarget p target placement)
    (found : forest.placeBelow? node target placement = some placed)
    (under : placed.Under p node.id) : forest.Under p target := by
  induction forest generalizing placed with
  | nil => cases found
  | cons item children rest childrenHypothesis restHypothesis =>
    obtain ⟨freshBelow, freshBeside⟩ := fresh.parts
    unfold placeBelow? at found
    split at found
    · next larger placeFound =>
      cases found
      have place : children.place? node target placement = some larger := placeFound
      rw [under_cons_of_not_beside freshBeside.id_not_mem] at under
      rw [under_cons]
      rcases under with ⟨holds, -⟩ | below
      · have present : children.contains target = true := by
          rw [← isSome_place? children node target placement, place]
          rfl
        exact .inl ⟨holds, contains_iff_mem_ids.mp present⟩
      · rcases Option.or_eq_some_iff.mp placeFound with atRoot | ⟨-, deeper⟩
        · exact absurd below (not_under_of_placeAtRoot? freshBelow spares atRoot)
        · exact .inr (.inl (childrenHypothesis freshBelow deeper below))
    · obtain ⟨larger, foundLater, rfl⟩ := Option.map_eq_some_iff.mp found
      rw [under_cons_of_not_below freshBelow.id_not_mem] at under
      exact under_cons.mpr (.inr (.inr (restHypothesis freshBeside foundLater under)))

/-- What is above a fresh subtree that was placed is above its target, or is the target. -/
theorem under_of_place? (fresh : node.FreshIn forest) (spares : SparesTarget p target placement)
    (found : forest.place? node target placement = some placed)
    (under : placed.Under p node.id) : forest.Under p target := by
  rcases Option.or_eq_some_iff.mp found with atRoot | ⟨-, below⟩
  · exact absurd under (not_under_of_placeAtRoot? fresh spares atRoot)
  · exact under_of_placeBelow? fresh spares below under

end Forest

end MindMap
