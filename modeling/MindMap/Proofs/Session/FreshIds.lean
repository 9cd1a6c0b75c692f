import MindMap.Proofs.Outline.Edits
import MindMap.Session.FreshId

/-!
# Freshness of numbered ids

The search for a free number finds one. Different numbers give different ids, so one number more
than there are nodes cannot all be taken. The numbers that `renumber` gives out only grow, so a
renumbered subtree shares no id with the document or within itself, and can always be inserted.
-/

namespace MindMap

/-- Different numbers make different ids. -/
theorem numberedId_injective {first second : Nat} (same : numberedId first = numberedId second) :
    first = second := by
  have sameDigits : Nat.toDigits 10 first = Nat.toDigits 10 second := by
    simpa [numberedId, toString] using congrArg String.toList same
  simpa using congrArg (Nat.ofDigitChars 10 · 0) sameDigits

/-- Growing numbers make ids without repetition. -/
theorem nodup_map_numberedId {numbers : List Nat} (grows : numbers.Pairwise (· < ·)) :
    (numbers.map numberedId).Nodup := by
  rw [List.Nodup, List.pairwise_map]
  refine grows.imp fun {first second} less same => ?_
  have equal := numberedId_injective same
  omega

namespace Forest

variable {document : Forest}

/-! ### The search for a free number -/

theorem le_freeNumberWithin (document : Forest) (fuel number : Nat) :
    number ≤ document.freeNumberWithin fuel number := by
  induction fuel generalizing number with
  | zero => exact Nat.le_refl _
  | succ fuel inductionHypothesis =>
    unfold freeNumberWithin
    split
    · exact Nat.le_of_succ_le (inductionHypothesis (number + 1))
    · exact Nat.le_refl _

theorem freeNumberWithin_le (document : Forest) (fuel number : Nat) :
    document.freeNumberWithin fuel number ≤ number + fuel := by
  induction fuel generalizing number with
  | zero => exact Nat.le_refl _
  | succ fuel inductionHypothesis =>
    unfold freeNumberWithin
    split
    · have later := inductionHypothesis (number + 1)
      omega
    · omega

/-- All numbers that the search passes are taken. -/
theorem taken_of_lt_freeNumberWithin {fuel number passed : Nat} (fromStart : number ≤ passed)
    (before : passed < document.freeNumberWithin fuel number) :
    numberedId passed ∈ document.ids := by
  induction fuel generalizing number with
  | zero => exact absurd before (by simp only [freeNumberWithin]; omega)
  | succ fuel inductionHypothesis =>
    unfold freeNumberWithin at before
    split at before
    · next taken =>
      rcases Nat.lt_or_eq_of_le fromStart with later | rfl
      · exact inductionHypothesis later before
      · exact contains_iff_mem_ids.mp taken
    · omega

/-- A search that ends at a taken number has used up what it may look at. -/
theorem freeNumberWithin_eq_of_taken {fuel number : Nat}
    (taken : numberedId (document.freeNumberWithin fuel number) ∈ document.ids) :
    document.freeNumberWithin fuel number = number + fuel := by
  induction fuel generalizing number with
  | zero => rfl
  | succ fuel inductionHypothesis =>
    unfold freeNumberWithin at taken ⊢
    split at taken
    · next here =>
      rw [if_pos here, inductionHypothesis taken]
      omega
    · next free => exact absurd (contains_iff_mem_ids.mpr taken) free

theorem le_freeNumber (document : Forest) (number : Nat) : number ≤ document.freeNumber number :=
  document.le_freeNumberWithin document.size number

theorem freeNumber_le (document : Forest) (number : Nat) :
    document.freeNumber number ≤ number + document.size :=
  document.freeNumberWithin_le document.size number

/-- The search finds a number whose id is free. -/
theorem freeNumber_free (document : Forest) (number : Nat) :
    numberedId (document.freeNumber number) ∉ document.ids := by
  intro taken
  have last : document.freeNumber number = number + document.size :=
    freeNumberWithin_eq_of_taken taken
  have allTaken : (List.range' number (document.size + 1)).map numberedId ⊆ document.ids := by
    intro id member
    obtain ⟨passed, inRange, rfl⟩ := List.mem_map.mp member
    have bounds := List.mem_range'_1.mp inRange
    by_cases before : passed < document.freeNumber number
    · exact taken_of_lt_freeNumberWithin bounds.1 before
    · have atLast : passed = document.freeNumber number := by omega
      rwa [atLast]
  have different : ((List.range' number (document.size + 1)).map numberedId).Nodup :=
    nodup_map_numberedId List.pairwise_lt_range'
  have tooMany := different.length_le_of_subset allTaken
  rw [List.length_map, List.length_range', length_ids] at tooMany
  omega

/-! ### Renumbering -/

/-- Ids made from numbers that grow from `first` on and stay below `next`, all of them free in a
document. -/
def Numbered (document : Forest) (ids : List String) (first next : Nat) : Prop :=
  ∃ numbers : List Nat, ids = numbers.map numberedId ∧ numbers.Pairwise (· < ·) ∧
    ∀ number ∈ numbers, first ≤ number ∧ number < next ∧ numberedId number ∉ document.ids

namespace Numbered

theorem nil (document : Forest) (number : Nat) : document.Numbered [] number number :=
  ⟨[], rfl, .nil, by simp⟩

/-- The number that a search finds, and then ids numbered from the next one on. -/
theorem cons {ids : List String} {next : Nat} (number : Nat)
    (later : document.Numbered ids (document.freeNumber number + 1) next)
    (bound : document.freeNumber number + 1 ≤ next) :
    document.Numbered (numberedId (document.freeNumber number) :: ids) number next := by
  obtain ⟨numbers, rfl, grows, free⟩ := later
  refine ⟨document.freeNumber number :: numbers, by simp, ?_, ?_⟩
  · exact List.pairwise_cons.mpr ⟨fun other member => (free other member).1, grows⟩
  · intro other member
    rcases List.mem_cons.mp member with rfl | member
    · exact ⟨le_freeNumber document number, bound, freeNumber_free document number⟩
    · obtain ⟨above, below, isFree⟩ := free other member
      exact ⟨by have := le_freeNumber document number; omega, below, isFree⟩

theorem append {early late : List String} {first middle next : Nat}
    (before : document.Numbered early first middle) (after : document.Numbered late middle next)
    (firstLe : first ≤ middle) (leNext : middle ≤ next) :
    document.Numbered (early ++ late) first next := by
  obtain ⟨early, rfl, earlyGrows, earlyFree⟩ := before
  obtain ⟨late, rfl, lateGrows, lateFree⟩ := after
  refine ⟨early ++ late, by simp, List.pairwise_append.mpr ⟨earlyGrows, lateGrows, ?_⟩, ?_⟩
  · intro one inEarly other inLate
    exact Nat.lt_of_lt_of_le (earlyFree one inEarly).2.1 (lateFree other inLate).1
  · intro number member
    rcases List.mem_append.mp member with inEarly | inLate
    · obtain ⟨above, below, isFree⟩ := earlyFree number inEarly
      exact ⟨above, by omega, isFree⟩
    · obtain ⟨above, below, isFree⟩ := lateFree number inLate
      exact ⟨by omega, below, isFree⟩

/-- The numbers grow whatever the document is that they are free in. -/
theorem grows {ids : List String} {first next : Nat} (numbered : document.Numbered ids first next) :
    Forest.nil.Numbered ids first next := by
  obtain ⟨numbers, made, grows, free⟩ := numbered
  refine ⟨numbers, made, grows, fun number member => ?_⟩
  exact ⟨(free number member).1, (free number member).2.1, List.not_mem_nil⟩

/-- Numbered ids are distinct, and none of them is in the document. -/
theorem fresh {ids : List String} {first next : Nat} (numbered : document.Numbered ids first next) :
    ids.Nodup ∧ ∀ id ∈ ids, id ∉ document.ids := by
  obtain ⟨numbers, rfl, grows, free⟩ := numbered
  constructor
  · exact nodup_map_numberedId grows
  · intro id member
    obtain ⟨number, inNumbers, rfl⟩ := List.mem_map.mp member
    exact (free number inNumbers).2.2

end Numbered

theorem le_renumber (document forest : Forest) (number : Nat) :
    number ≤ (document.renumber forest number).2 := by
  induction forest generalizing number with
  | nil => exact Nat.le_refl _
  | cons item children rest childrenHypothesis restHypothesis =>
    simp only [renumber]
    have found := le_freeNumber document number
    have below := childrenHypothesis (document.freeNumber number + 1)
    have after := restHypothesis (document.renumber children (document.freeNumber number + 1)).2
    omega

theorem numbered_renumber (document forest : Forest) (number : Nat) :
    document.Numbered (document.renumber forest number).1.ids number
      (document.renumber forest number).2 := by
  induction forest generalizing number with
  | nil => exact .nil document number
  | cons item children rest childrenHypothesis restHypothesis =>
    simp only [renumber, ids_cons]
    have below := document.le_renumber children (document.freeNumber number + 1)
    have after := document.le_renumber rest
      (document.renumber children (document.freeNumber number + 1)).2
    exact .cons number ((childrenHypothesis _).append (restHypothesis _) below after) (by omega)

theorem ids_shift (dx dy : Float) (forest : Forest) : (forest.shift dx dy).ids = forest.ids := by
  induction forest with
  | nil => rfl
  | cons item children rest childrenHypothesis restHypothesis =>
    simp [shift, childrenHypothesis, restHypothesis]

end Forest

namespace Node

theorem numbered_renumber (document : Forest) (node : Node) (number : Nat) :
    document.Numbered (node.renumber document number).1.ids number
      (node.renumber document number).2 := by
  simp only [renumber, ids_eq]
  have below := document.le_renumber node.children (document.freeNumber number + 1)
  exact .cons number (document.numbered_renumber node.children _) below

theorem ids_shift (dx dy : Float) (node : Node) : (node.shift dx dy).ids = node.ids := by
  simp [ids_eq, shift, Forest.ids_shift]

/-- A renumbered subtree is fresh, wherever it is moved. -/
theorem freshIn_renumber (document : Forest) (node : Node) (number : Nat) (dx dy : Float) :
    ((node.renumber document number).1.shift dx dy).FreshIn document := by
  unfold FreshIn
  rw [ids_shift]
  exact (numbered_renumber document node number).fresh

end Node

end MindMap
