import MindMap.Proofs.Text.CodePoints

/-!
# Where clusters begin

Whether a cluster ends between two texts is decided by what is remembered of the first and by the
character that the second begins with: `joined`. Behind an end nothing that came before matters any more,
since the memory of a text that ends a cluster is, after one more character, the memory of that character
alone: `Memory.Sound.read_eq`. So texts that are not joined have their clusters one after another, and
the clusters of a text part it at just the places where it is not joined: `exists_pieces_iff`.

That no memory is carried over rests on the tables: a picture or a consonant never stands alone, and what
links consonants is a mark.
-/

namespace MindMap.Text

/-! ### Memories -/

namespace Memory

variable {memory : Memory} {c : Char}

/-- What a memory holds agrees with the class that it holds. -/
structure Sound (memory : Memory) : Prop where
  regional : memory.oddRegional = true → memory.last = .regional
  picture : memory.picture ≠ .none → standsAlone memory.last = false
  conjunct : memory.conjunct ≠ .none → standsAlone memory.last = false

theorem pictureAfter_none : pictureAfter .none c (breakClass c) =
    if pictographic.contains c then .pictured else .none := by
  unfold pictureAfter
  split <;> rfl

theorem conjunctAfter_none : conjunctAfter .none c (breakClass c) =
    if conjunctConsonant.contains c then .consonant else .none := by
  unfold conjunctAfter
  split <;> rfl

/-- A character that goes on with a picture or a consonant: a mark or a joiner. -/
def Attaches (c : Char) : Prop := breakClass c = .extend ∨ breakClass c = .joiner

theorem pictureAfter_eq {state : PictureState} (loose : ¬Attaches c) :
    pictureAfter state c (breakClass c) = pictureAfter .none c (breakClass c) := by
  rw [pictureAfter_none]
  unfold pictureAfter
  split
  · rfl
  · split
    · next mark => exact absurd (.inl mark) loose
    · next joiner => exact absurd (.inr joiner) loose
    · rfl

theorem conjunctAfter_eq {state : ConjunctState} (loose : ¬Attaches c) :
    conjunctAfter state c (breakClass c) = conjunctAfter .none c (breakClass c) := by
  obtain ⟨noMark, noJoiner⟩ := not_or.mp loose
  have noLinker : ¬conjunctLinker.contains c = true := mt breakClass_of_conjunctLinker noMark
  rw [conjunctAfter_none]
  unfold conjunctAfter
  simp [noMark, noJoiner, noLinker]

theorem Attaches.standsAlone (attaches : Attaches c) : standsAlone (breakClass c) = false := by
  rcases attaches with kind | kind <;> rw [kind] <;> rfl

theorem standsAlone_of_pictureAfter {state : PictureState}
    (picture : pictureAfter state c (breakClass c) ≠ .none) :
    standsAlone (breakClass c) = false := by
  by_cases pictured : pictographic.contains c = true
  · exact standsAlone_of_pictographic pictured
  by_cases attaches : Attaches c
  · exact attaches.standsAlone
  · rw [pictureAfter_eq attaches, pictureAfter_none, if_neg pictured] at picture
    exact absurd rfl picture

theorem standsAlone_of_conjunctAfter {state : ConjunctState}
    (conjunct : conjunctAfter state c (breakClass c) ≠ .none) :
    standsAlone (breakClass c) = false := by
  by_cases consonant : conjunctConsonant.contains c = true
  · exact standsAlone_of_conjunctConsonant consonant
  by_cases attaches : Attaches c
  · exact attaches.standsAlone
  · rw [conjunctAfter_eq attaches, conjunctAfter_none, if_neg consonant] at conjunct
    exact absurd rfl conjunct

theorem sound_read (memory : Option Memory) (c : Char) : (read memory c).Sound where
  regional odd := by
    simp only [read, Bool.and_eq_true, decide_eq_true_eq] at odd
    exact odd.1
  picture := standsAlone_of_pictureAfter
  conjunct := standsAlone_of_conjunctAfter

/-- Marks and joiners belong to what comes before, unless that stands alone. -/
theorem Attaches.joins (attaches : Attaches c) (companion : Memory.standsAlone memory.last = false) :
    memory.joins c = true := by
  unfold Memory.joins
  simp only [companion, attaches.standsAlone]
  rcases attaches with kind | kind <;> simp [kind]

/-- The second of two regional indicators belongs to the first. -/
theorem Sound.joins_of_regional (sound : memory.Sound) (odd : memory.oddRegional = true)
    (regional : breakClass c = .regional) : memory.joins c = true := by
  unfold joins
  simp [regional, sound.regional odd, odd, standsAlone]

/-- Behind the end of a cluster nothing that came before it is remembered. -/
theorem Sound.read_eq (sound : memory.Sound) (apart : memory.joins c = false) :
    read (some memory) c = read none c := by
  have notJoins : memory.joins c ≠ true := ne_true_of_eq_false apart
  have loose (companion : standsAlone memory.last = false) : ¬Attaches c := fun attaches =>
    notJoins (attaches.joins companion)
  have picture : pictureAfter memory.picture c (breakClass c) =
      pictureAfter .none c (breakClass c) := by
    by_cases empty : memory.picture = .none
    · rw [empty]
    · exact pictureAfter_eq (loose (sound.picture empty))
  have conjunct : conjunctAfter memory.conjunct c (breakClass c) =
      conjunctAfter .none c (breakClass c) := by
    by_cases empty : memory.conjunct = .none
    · rw [empty]
    · exact conjunctAfter_eq (loose (sound.conjunct empty))
  have regional : (decide (breakClass c = .regional) && !memory.oddRegional) =
      decide (breakClass c = .regional) := by
    cases odd : memory.oddRegional
    · simp
    · have other : breakClass c ≠ .regional := fun regional =>
        notJoins (sound.joins_of_regional odd regional)
      simp [other]
  simp [read, picture, conjunct, regional]

end Memory

/-- What is remembered after a text, given what was remembered before it. -/
def memoryAfter (memory : Option Memory) (text : List Char) : Option Memory :=
  text.foldl (fun memory c => some (.read memory c)) memory

/-- Whether a text goes on with the cluster that ends in what is remembered. -/
def continues (memory : Option Memory) : List Char → Bool
  | [] => false
  | c :: _ => memory.any (·.joins c)

/-- Whether one cluster reaches from the first text into the second. -/
def joined (before after : List Char) : Bool := continues (memoryAfter none before) after

@[simp] theorem joined_nil_left (after : List Char) : joined [] after = false := by
  cases after <;> rfl

@[simp] theorem joined_nil_right (before : List Char) : joined before [] = false := rfl

/-- Only the character that comes next matters. -/
theorem joined_append_right {before middle : List Char} (notEmpty : middle ≠ []) (after : List Char) :
    joined before (middle ++ after) = joined before middle := by
  obtain ⟨c, rest, rfl⟩ := List.exists_cons_of_ne_nil notEmpty
  rfl

/-! ### Clusters of two texts -/

theorem graphemesFrom_append {memory : Memory} (sound : memory.Sound) (cluster : List Char)
    {before after : List Char} (apart : continues (memoryAfter (some memory) before) after = false) :
    graphemesFrom memory cluster (before ++ after) =
      graphemesFrom memory cluster before ++ graphemes after := by
  induction before generalizing memory cluster with
  | nil =>
    cases after with
    | nil => simp [graphemes]
    | cons c rest =>
      have apart : memory.joins c = false := apart
      have ends : graphemesFrom memory cluster (c :: rest) =
          cluster.reverse :: graphemesFrom (.read (some memory) c) [c] rest := by
        rw [graphemesFrom, if_neg (ne_true_of_eq_false apart)]
      rw [List.nil_append, ends, sound.read_eq apart]
      rfl
  | cons c rest inductionHypothesis =>
    have later := fun cluster => inductionHypothesis (Memory.sound_read (some memory) c) cluster apart
    rw [List.cons_append, graphemesFrom, graphemesFrom]
    split
    · exact later _
    · rw [later, List.cons_append]

/-- Texts that are not joined have their clusters one after another. -/
theorem graphemes_append {before after : List Char} (apart : joined before after = false) :
    graphemes (before ++ after) = graphemes before ++ graphemes after := by
  cases before with
  | nil => rfl
  | cons c rest => exact graphemesFrom_append (Memory.sound_read none c) [c] apart

/-- Where a cut into clusters is parted, nothing goes on with what has been read. -/
theorem exists_text_of_graphemesFrom {memory : Memory} {cluster text : List Char}
    {pieces rest : List (List Char)} (cut : graphemesFrom memory cluster text = pieces ++ rest)
    (begun : pieces ≠ []) :
    ∃ before, pieces.flatten = cluster.reverse ++ before ∧
      continues (memoryAfter (some memory) before) rest.flatten = false := by
  induction text generalizing memory cluster pieces with
  | nil =>
    obtain ⟨piece, later, rfl⟩ := List.exists_cons_of_ne_nil begun
    obtain ⟨rfl, none⟩ := List.cons.inj cut
    obtain ⟨rfl, rfl⟩ := List.append_eq_nil_iff.mp none.symm
    exact ⟨[], by simp, rfl⟩
  | cons c text inductionHypothesis =>
    rw [graphemesFrom] at cut
    split at cut
    · obtain ⟨before, flatten, apart⟩ := inductionHypothesis cut begun
      exact ⟨c :: before, by simpa using flatten, apart⟩
    · next apart =>
      obtain ⟨piece, later, rfl⟩ := List.exists_cons_of_ne_nil begun
      obtain ⟨rfl, remaining⟩ := List.cons.inj cut
      by_cases only : later = []
      · -- The next character is the first behind the place.
        subst only
        have behind : rest.flatten = c :: text := by
          rw [show rest = _ from remaining.symm, flatten_graphemesFrom]
          rfl
        exact ⟨[], by simp, behind ▸ eq_false_of_ne_true apart⟩
      · obtain ⟨before, flatten, apart⟩ := inductionHypothesis remaining only
        exact ⟨c :: before, by simp [flatten], apart⟩

/-- Between two clusters a text is not joined. -/
theorem joined_flatten {text : List Char} {pieces rest : List (List Char)}
    (cut : graphemes text = pieces ++ rest) : joined pieces.flatten rest.flatten = false := by
  by_cases begun : pieces = []
  · rw [begun]
    exact joined_nil_left _
  · cases text with
    | nil => exact absurd (List.append_eq_nil_iff.mp cut.symm).1 begun
    | cons c text =>
      obtain ⟨before, flatten, apart⟩ := exists_text_of_graphemesFrom cut begun
      rw [flatten]
      exact apart

/-- The clusters of a text part it where it is not joined, and nowhere else. -/
theorem exists_pieces_iff {before after : List Char} :
    (∃ pieces rest, graphemes (before ++ after) = pieces ++ rest ∧ pieces.flatten = before ∧
      rest.flatten = after) ↔ joined before after = false := by
  constructor
  · rintro ⟨pieces, rest, cut, rfl, rfl⟩
    exact joined_flatten cut
  · intro apart
    exact ⟨_, _, graphemes_append apart, flatten_graphemes before, flatten_graphemes after⟩

end MindMap.Text
