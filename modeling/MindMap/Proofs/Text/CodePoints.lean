import MindMap.Text.Grapheme

/-!
# Properties of characters compared

A property is a set of code points, kept as the points where membership changes, so between two of these
points nothing changes. What two sets have to do with each other can therefore be looked up at the
points alone: `CodePoints.compare`. The facts about properties that the boundary rules rest on are got in
this way, without going through the characters.
-/

namespace MindMap.Text

namespace CodePoints

/-- Where no boundary is passed, membership stays. -/
theorem insideAfter_eq {low high : Nat} {boundaries : List Nat} (ordered : low ≤ high)
    (none : ∀ boundary ∈ boundaries, boundary ≤ low ∨ high < boundary) (inside : Bool) :
    insideAfter high boundaries inside = insideAfter low boundaries inside := by
  induction boundaries generalizing inside with
  | nil => rfl
  | cons boundary rest inductionHypothesis =>
    rcases none boundary List.mem_cons_self with passed | beyond
    · rw [insideAfter_of_le passed, insideAfter_of_le (Nat.le_trans passed ordered)]
      exact inductionHypothesis (fun other member => none other (List.mem_cons_of_mem _ member)) _
    · rw [insideAfter_of_lt beyond, insideAfter_of_lt (Nat.lt_of_le_of_lt ordered beyond)]

/-- The last of some points that a code has reached. -/
theorem exists_last_reached (points : List Nat) (code : Nat) :
    ∃ last ∈ 0 :: points, last ≤ code ∧ ∀ point ∈ points, point ≤ last ∨ code < point := by
  induction points with
  | nil => exact ⟨0, List.mem_cons_self, Nat.zero_le code, nofun⟩
  | cons point rest inductionHypothesis =>
    obtain ⟨last, member, reached, none⟩ := inductionHypothesis
    by_cases later : last < point ∧ point ≤ code
    · refine ⟨point, by simp, later.2, ?_⟩
      rintro other (_ | ⟨_, inRest⟩)
      · exact .inl (Nat.le_refl point)
      · exact (none other inRest).imp_left fun before => Nat.le_trans before (Nat.le_of_lt later.1)
    · refine ⟨last, ?_, reached, ?_⟩
      · rcases List.mem_cons.mp member with rfl | inRest
        · exact List.mem_cons_self
        · exact List.mem_cons_of_mem _ (List.mem_cons_of_mem _ inRest)
      · rintro other (_ | ⟨_, inRest⟩)
        · omega
        · exact none other inRest

/-- What holds of membership in two sets at all their boundaries holds for every character. -/
theorem compare {one other : CodePoints} {motive : Bool → Bool → Prop}
    (checked : ∀ point ∈ 0 :: (one.boundaries ++ other.boundaries),
      motive (insideAfter point one.boundaries false) (insideAfter point other.boundaries false))
    (c : Char) : motive (one.contains c) (other.contains c) := by
  obtain ⟨last, member, reached, none⟩ :=
    exists_last_reached (one.boundaries ++ other.boundaries) c.toNat
  have sameInOne := insideAfter_eq reached
    (fun boundary inOne => none boundary (List.mem_append_left _ inOne)) false
  have sameInOther := insideAfter_eq reached
    (fun boundary inOther => none boundary (List.mem_append_right _ inOther)) false
  rw [contains, contains, sameInOne, sameInOther]
  exact checked last member

/-- The only code of a set that a boundary lets in, where the next one shuts it out again. -/
theorem exists_boundary_of_contains {set : CodePoints} {c : Char} (inSet : set.contains c = true)
    (single : ∀ point ∈ 0 :: set.boundaries, insideAfter point set.boundaries false = true →
      point + 1 ∈ set.boundaries) :
    c.toNat ∈ 0 :: set.boundaries ∧ insideAfter c.toNat set.boundaries false = true := by
  obtain ⟨last, member, reached, none⟩ := exists_last_reached set.boundaries c.toNat
  have inside : insideAfter last set.boundaries false = true := by
    rw [← insideAfter_eq reached none]
    exact inSet
  have next := none (last + 1) (single last member inside)
  obtain rfl : last = c.toNat := by omega
  exact ⟨member, inside⟩

end CodePoints

/-! ### Classes of the boundary rules -/

/-- Only line breaks and control characters stand alone. -/
theorem eq_of_standsAlone {c : Char} (alone : Memory.standsAlone (breakClass c) = true) :
    c = '\r' ∨ c = '\n' ∨ breakControl.contains c = true := by
  by_cases isReturn : c = '\r'
  · exact .inl isReturn
  by_cases isFeed : c = '\n'
  · exact .inr (.inl isFeed)
  refine .inr (.inr (Decidable.byContradiction fun noControl => ?_))
  rw [breakClass] at alone
  simp only [if_neg isReturn, if_neg isFeed, if_neg noControl] at alone
  simp only [apply_ite Memory.standsAlone] at alone
  simp [Memory.standsAlone] at alone

/-- A set with no line breaks and no controls in it. -/
theorem standsAlone_eq_false {set : CodePoints} (noReturn : set.contains '\r' = false)
    (noFeed : set.contains '\n' = false)
    (apart : ∀ point ∈ 0 :: (breakControl.boundaries ++ set.boundaries),
      CodePoints.insideAfter point breakControl.boundaries false = true →
        CodePoints.insideAfter point set.boundaries false = false)
    {c : Char} (inSet : set.contains c = true) : Memory.standsAlone (breakClass c) = false := by
  refine eq_false_of_ne_true fun alone => ?_
  rcases eq_of_standsAlone alone with rfl | rfl | control
  · rw [noReturn] at inSet
    exact Bool.false_ne_true inSet
  · rw [noFeed] at inSet
    exact Bool.false_ne_true inSet
  · have outside := CodePoints.compare (motive := fun one other => one = true → other = false)
      apart c control
    rw [outside] at inSet
    exact Bool.false_ne_true inSet

/-- No picture stands alone. -/
theorem standsAlone_of_pictographic {c : Char} (picture : pictographic.contains c = true) :
    Memory.standsAlone (breakClass c) = false :=
  standsAlone_eq_false (by decide) (by decide) (by decide +kernel) picture

/-- No consonant stands alone. -/
theorem standsAlone_of_conjunctConsonant {c : Char}
    (consonant : conjunctConsonant.contains c = true) :
    Memory.standsAlone (breakClass c) = false :=
  standsAlone_eq_false (by decide) (by decide) (by decide +kernel) consonant

/-- What links two consonants is a mark on the first. -/
theorem breakClass_of_conjunctLinker {c : Char} (linker : conjunctLinker.contains c = true) :
    breakClass c = .extend := by
  obtain ⟨member, inside⟩ := CodePoints.exists_boundary_of_contains linker (by decide +kernel)
  have marks : ∀ point ∈ 0 :: conjunctLinker.boundaries,
      CodePoints.insideAfter point conjunctLinker.boundaries false = true →
        breakClass (Char.ofNat point) = .extend := by decide +kernel
  simpa using marks c.toNat member inside

end MindMap.Text
