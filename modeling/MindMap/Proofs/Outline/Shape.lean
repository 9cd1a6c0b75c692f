import MindMap.Proofs.Outline.Edits

/-!
# Outlines of one shape

Two outlines are `Alike` if they have the same shape and their items, place by place, stand in a
relation. An update leaves the shape and changes one item, the first with the id in pre-order, in
the parts that the update names; nothing is assumed of the ids of the outline for this.
-/

namespace MindMap

/-- What a part of an item becomes: the value that is given, or what it was if none is. -/
def Becomes {α : Type} (given : Option α) (before after : α) : Prop :=
  (∀ value, given = some value → after = value) ∧ (given = none → after = before)

theorem becomes_getD {α : Type} (given : Option α) (before : α) :
    Becomes given before (given.getD before) := by
  cases given <;> simp [Becomes]

/-- The parts of an item that an update names have the values it gives, and the others are as
before. -/
structure Update.Changes (update : Update) (before after : Item) : Prop where
  id : after.id = before.id
  text : Becomes update.text before.text after.text
  x : Becomes update.x before.x after.x
  y : Becomes update.y before.y after.y
  collapsed : Becomes update.collapsed before.collapsed after.collapsed
  note : Becomes update.note before.note after.note
  block : Becomes update.block before.block after.block

theorem Update.changes_apply (update : Update) (item : Item) :
    update.Changes item (update.apply item) where
  id := rfl
  text := becomes_getD _ _
  x := becomes_getD _ _
  y := becomes_getD _ _
  collapsed := becomes_getD _ _
  note := becomes_getD _ _
  block := becomes_getD _ _

namespace Forest

variable {forest other third updated : Forest} {related : Item → Item → Prop} {id : String}
  {update : Update}

/-- The forests have the same shape, and each item of the one is related to the item of the other in
its place. -/
inductive Alike (related : Item → Item → Prop) : Forest → Forest → Prop where
  | nil : Alike related nil nil
  | cons {item counterpart : Item} {children below rest beside : Forest}
      (items : related item counterpart) (inChildren : Alike related children below)
      (inRest : Alike related rest beside) :
      Alike related (cons item children rest) (cons counterpart below beside)

/-- The forests have the same shape. -/
abbrev SameShape (forest other : Forest) : Prop := forest.Alike (fun _ _ => True) other

theorem Alike.mono {weaker : Item → Item → Prop} (alike : forest.Alike related other)
    (implies : ∀ item counterpart, related item counterpart → weaker item counterpart) :
    forest.Alike weaker other := by
  induction alike with
  | nil => exact .nil
  | cons items _ _ childrenHypothesis restHypothesis =>
    exact .cons (implies _ _ items) childrenHypothesis restHypothesis

theorem Alike.trans {further : Item → Item → Prop} (first : forest.Alike related other)
    (second : other.Alike further third) :
    forest.Alike (fun item counterpart =>
      ∃ between, related item between ∧ further between counterpart) third := by
  induction first generalizing third with
  | nil =>
    cases second
    exact .nil
  | cons items _ _ childrenHypothesis restHypothesis =>
    cases second with
    | cons laterItems laterChildren laterRest =>
      exact .cons ⟨_, items, laterItems⟩ (childrenHypothesis laterChildren)
        (restHypothesis laterRest)

theorem sameShape_refl (forest : Forest) : forest.SameShape forest := by
  induction forest with
  | nil => exact .nil
  | cons item children rest childrenHypothesis restHypothesis =>
    exact .cons trivial childrenHypothesis restHypothesis

/-! ### Updates -/

/-- All items in pre-order. -/
def items (forest : Forest) : List Item := forest.nodes.map (·.toItem)

theorem items_cons (item : Item) (children rest : Forest) :
    (cons item children rest).items = item :: (children.items ++ rest.items) := by
  simp [items, nodes]

theorem map_id_items (forest : Forest) : forest.items.map (·.id) = forest.ids := by
  simp [items, ids]

/-- The first item with the id, and no other, is changed, and in the parts that the update names. -/
structure ChangesFirst (forest : Forest) (id : String) (update : Update) (updated : Forest) :
    Prop where
  shape : forest.SameShape updated
  one : ∃ before item changed behind, forest.items = before ++ item :: behind ∧
    updated.items = before ++ changed :: behind ∧ (∀ other ∈ before, other.id ≠ id) ∧
    item.id = id ∧ update.Changes item changed

theorem ChangesFirst.ids (changes : forest.ChangesFirst id update updated) :
    updated.ids = forest.ids := by
  obtain ⟨before, item, changed, behind, whole, wholeUpdated, -, -, same⟩ := changes.one
  rw [← map_id_items, ← map_id_items, whole, wholeUpdated]
  simp [same.id]

theorem changesFirst_of_update? (changed : forest.update? id update = some updated) :
    forest.ChangesFirst id update updated := by
  induction forest generalizing updated with
  | nil => cases changed
  | cons item children rest childrenHypothesis restHypothesis =>
    unfold update? at changed
    split at changed
    · next isFirst =>
      cases changed
      exact ⟨.cons trivial (sameShape_refl children) (sameShape_refl rest), [], item,
        update.apply item, _, items_cons .., items_cons .., by simp, isFirst,
        update.changes_apply item⟩
    · next notRoot =>
      split at changed
      · next below changedBelow =>
        cases changed
        obtain ⟨shape, before, found, new, behind, whole, wholeBelow, notBefore, same, changes⟩ :=
          childrenHypothesis changedBelow
        refine ⟨.cons trivial shape (sameShape_refl rest), item :: before, found, new,
          behind ++ rest.items, ?_, ?_, ?_, same, changes⟩
        · simp [items_cons, whole]
        · simp [items_cons, wholeBelow]
        · simpa [notRoot] using notBefore
      · next notBelow =>
        obtain ⟨beside, changedLater, rfl⟩ := Option.map_eq_some_iff.mp changed
        obtain ⟨shape, before, found, new, behind, whole, wholeBeside, notBefore, same, changes⟩ :=
          restHypothesis changedLater
        refine ⟨.cons trivial (sameShape_refl children) shape, item :: (children.items ++ before),
          found, new, behind, ?_, ?_, ?_, same, changes⟩
        · simp [items_cons, whole]
        · simp [items_cons, wholeBeside]
        · have absent : id ∉ children.ids :=
            find?_eq_none_iff.mp (update?_eq_none_iff.mp notBelow)
          have notInChildren : ∀ other ∈ children.items, other.id ≠ id := by
            rintro other member rfl
            exact absent (map_id_items children ▸ List.mem_map_of_mem member)
          intro other member
          rcases List.mem_cons.mp member with rfl | later
          · exact notRoot
          · exact (List.mem_append.mp later).elim (notInChildren other) (notBefore other)

end Forest

end MindMap
