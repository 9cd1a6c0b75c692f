import MindMap.Command.Search
import MindMap.Proofs.Command.Registration

/-!
# Completions

What all candidates begin with in common is found by comparing one with the next. It is told by the
texts that it begins with, and these are the texts that all candidates begin with:
`prefix_commonStartOf_iff`. Hence it is the longest of them, and a completion goes as far as it can
without leaving a candidate behind. The main statement is `Reachable.completes_to_longest_start`.

Texts are compared by characters here. A registered name may hold blanks, and may itself be blank if it
is an alias.
-/

namespace MindMap

namespace Registry

variable {ε : Type} {registry : Registry ε} {word name line completion : String}

/-! ### Common starts -/

theorem prefix_commonStart_iff {other left right : List Char} :
    other <+: commonStart left right ↔ other <+: left ∧ other <+: right := by
  fun_induction commonStart left right generalizing other with
  | case1 c left right inductionHypothesis =>
    cases other with
    | nil => simp
    | cons d other =>
      simp only [List.cons_prefix_cons, inductionHypothesis]
      tauto
  | case2 c left d right differs =>
    cases other with
    | nil => simp
    | cons e other =>
      simp only [List.cons_prefix_cons, List.prefix_nil, reduceCtorEq, false_iff]
      rintro ⟨⟨rfl, -⟩, rfl, -⟩
      exact differs rfl
  | case3 left right notBoth =>
    have empty : left = [] ∨ right = [] := by
      cases left with
      | nil => exact .inl rfl
      | cons c left =>
        cases right with
        | nil => exact .inr rfl
        | cons d right => exact (notBoth c left d right rfl rfl).elim
    rcases empty with rfl | rfl <;> simp +contextual

theorem prefix_foldl_commonStart_iff {other first : List Char} {rest : List (List Char)} :
    other <+: rest.foldl commonStart first ↔ other <+: first ∧ ∀ text ∈ rest, other <+: text := by
  induction rest generalizing first with
  | nil => simp
  | cons text rest inductionHypothesis =>
    rw [List.foldl_cons, inductionHypothesis, prefix_commonStart_iff, List.forall_mem_cons, and_assoc]

/-- A text is at the start of the common start exactly if it is at the start of all texts. -/
theorem prefix_commonStartOf_iff {texts : List (List Char)} {common other : List Char}
    (found : commonStartOf texts = some common) :
    other <+: common ↔ ∀ text ∈ texts, other <+: text := by
  cases texts with
  | nil => cases found
  | cons first rest =>
    obtain rfl : rest.foldl commonStart first = common := Option.some.inj found
    rw [prefix_foldl_commonStart_iff, List.forall_mem_cons]

/-- The longest text that all given names begin with. -/
structure LongestStart (given : String → Prop) (common : String) : Prop where
  begins : ∀ name, given name → common.toList <+: name.toList
  longest : ∀ other : String, (∀ name, given name → other.toList <+: name.toList) →
    other.length ≤ common.length

namespace LongestStart

variable {given : String → Prop} {common other : String}

/-- Starts of one text are told apart by their lengths. -/
theorem unique (longest : LongestStart given common) (alsoLongest : LongestStart given other)
    (isGiven : given name) : common = other := by
  have sameLength : common.toList.length = other.toList.length := by
    have atMost := alsoLongest.longest common longest.begins
    have atLeast := longest.longest other alsoLongest.begins
    simp only [String.length_toList]
    omega
  have begins := longest.begins name isGiven
  have alsoBegins := alsoLongest.begins name isGiven
  exact String.toList_inj.mp
    ((List.prefix_of_prefix_length_le begins alsoBegins (Nat.le_of_eq sameLength)).eq_of_length
      sameLength)

end LongestStart

/-! ### Candidates -/

/-- A registered name or alias that begins with a text. -/
structure Candidate (registry : Registry ε) (start name : String) : Prop where
  registered : ∃ command ∈ registry.all, name ∈ command.names
  begins : start.toList <+: name.toList

theorem Sound.mem_keys_iff (sound : registry.Sound) :
    name ∈ registry.commands.keys ++ registry.aliases.keys ↔
      ∃ command ∈ registry.all, name ∈ command.names := by
  rw [List.mem_append, Table.mem_keys_iff, Table.mem_keys_iff]
  constructor
  · rintro (isName | isAlias)
    · obtain ⟨command, found⟩ := Option.isSome_iff_exists.mp isName
      have sameName := sound.named found
      exact ⟨command, sound.mem_all_iff.mpr (by rwa [sameName]), sameName ▸ List.mem_cons_self⟩
    · obtain ⟨owner, held⟩ := Option.isSome_iff_exists.mp isAlias
      obtain ⟨command, found, listed⟩ := sound.owned.mp held
      have sameName := sound.named found
      exact ⟨command, sound.mem_all_iff.mpr (by rwa [sameName]), List.mem_cons_of_mem _ listed⟩
  · rintro ⟨command, registered, isName⟩
    have found := sound.mem_all_iff.mp registered
    rcases List.mem_cons.mp isName with rfl | listed
    · exact .inl (by rw [found]; rfl)
    · have held := sound.owned.mpr ⟨command, found, listed⟩
      exact .inr (by rw [held]; rfl)

theorem Sound.mem_candidates_iff (sound : registry.Sound) :
    name ∈ registry.candidates word ↔ registry.Candidate word name := by
  rw [candidates, List.mem_eraseDups, List.mem_filter, sound.mem_keys_iff,
    List.isPrefixOf_iff_prefix]
  exact ⟨fun ⟨registered, begins⟩ => ⟨registered, begins⟩,
    fun candidate => ⟨candidate.registered, candidate.begins⟩⟩

theorem nodup_eraseDups (names : List String) : names.eraseDups.Nodup := by
  match names with
  | [] => exact .nil
  | first :: rest =>
    rw [List.eraseDups_cons, List.nodup_cons]
    exact ⟨by simp [List.mem_eraseDups], nodup_eraseDups (rest.filter fun name => !name == first)⟩
termination_by names.length
decreasing_by
  rw [List.length_cons]
  exact Nat.lt_succ_of_le (List.length_filter_le _ rest)

theorem Sound.length_candidates_eq_one_iff (sound : registry.Sound) :
    (registry.candidates word).length = 1 ↔ ∃! name, registry.Candidate word name := by
  simp only [← sound.mem_candidates_iff]
  have nodup : (registry.candidates word).Nodup := nodup_eraseDups _
  generalize registry.candidates word = names at nodup ⊢
  rw [List.length_eq_one_iff]
  constructor
  · rintro ⟨name, rfl⟩
    exact ⟨name, by simp, by simp⟩
  · rintro ⟨name, member, only⟩
    exact ⟨name, List.perm_singleton.mp ((List.perm_ext_iff_of_nodup nodup (by simp)).mpr
      fun other => ⟨fun isMember => by simp [only other isMember], fun isName => by
        rwa [List.mem_singleton.mp isName]⟩)⟩

/-- What the candidates begin with in common is the longest start of all of them. -/
theorem Sound.longestStart_of_commonStartOf (sound : registry.Sound) {common : List Char}
    (found : commonStartOf ((registry.candidates word).map String.toList) = some common) :
    LongestStart (registry.Candidate word) (String.ofList common) := by
  have begins : ∀ other : String, other.toList <+: common ↔
      ∀ name, registry.Candidate word name → other.toList <+: name.toList := by
    intro other
    rw [prefix_commonStartOf_iff found]
    simp [sound.mem_candidates_iff]
  constructor
  · exact (begins _).mp (by simp)
  · intro other commonToAll
    have atMost := ((begins other).mpr commonToAll).length_le
    rwa [String.length_toList, ← String.length_ofList] at atMost

theorem Sound.commonStartOf_eq_none_iff (sound : registry.Sound) :
    commonStartOf ((registry.candidates word).map String.toList) = none ↔
      ¬∃ name, registry.Candidate word name := by
  simp only [← sound.mem_candidates_iff]
  cases registry.candidates word with
  | nil => simp [commonStartOf]
  | cons first rest => simp [commonStartOf]

/-! ### Completions -/

/-- Some text without blanks. -/
def IsWordStart (word : String) : Prop := word ≠ "" ∧ ∀ c ∈ word.toList, Text.isBlank c = false

/-- There is nothing to complete, nothing to complete it to, or no way to go further. -/
def Stuck (registry : Registry ε) (word : String) : Prop :=
  ¬IsWordStart word ∨ (∀ name, ¬registry.Candidate word name) ∨
    LongestStart (registry.Candidate word) word

/-- What a text is completed to. -/
inductive Completes (registry : Registry ε) (word : String) : Option String → Prop where
  | stuck (stuck : registry.Stuck word) : Completes registry word none
  /-- There is one candidate. -/
  | whole {common : String} (free : ¬registry.Stuck word)
      (longest : LongestStart (registry.Candidate word) common)
      (only : ∃! name, registry.Candidate word name) :
      Completes registry word (some (common ++ " "))
  /-- There are more. -/
  | part {common : String} (free : ¬registry.Stuck word)
      (longest : LongestStart (registry.Candidate word) common)
      (notOnly : ¬∃! name, registry.Candidate word name) : Completes registry word (some common)

theorem exists_candidate_of_not_stuck (free : ¬registry.Stuck word) :
    ∃ name, registry.Candidate word name := by
  by_contra absent
  exact free (.inr (.inl (not_exists.mp absent)))

/-- A text has one completion. -/
theorem Completes.unique {answer other : Option String} (completes : registry.Completes word answer)
    (alsoCompletes : registry.Completes word other) : answer = other := by
  cases completes with
  | stuck stuck =>
    cases alsoCompletes with
    | stuck => rfl
    | whole free | part free => exact absurd stuck free
  | whole free longest only =>
    obtain ⟨name, candidate⟩ := exists_candidate_of_not_stuck free
    cases alsoCompletes with
    | stuck stuck => exact absurd stuck free
    | whole _ alsoLongest => rw [longest.unique alsoLongest candidate]
    | part _ _ notOnly => exact absurd only notOnly
  | part free longest notOnly =>
    obtain ⟨name, candidate⟩ := exists_candidate_of_not_stuck free
    cases alsoCompletes with
    | stuck stuck => exact absurd stuck free
    | whole _ _ only => exact absurd only notOnly
    | part _ alsoLongest => rw [longest.unique alsoLongest candidate]

theorem Sound.completes (sound : registry.Sound) (line : String) :
    registry.Completes (Text.trimStart line) (registry.complete? line) := by
  unfold complete?
  generalize Text.trimStart line = word
  dsimp only
  split
  · next excluded =>
    refine .stuck (.inl fun isStart => ?_)
    rcases Bool.or_eq_true_iff.mp excluded with empty | blank
    · exact isStart.1 (String.isEmpty_iff.mp empty)
    · obtain ⟨c, member, isBlank⟩ := List.any_eq_true.mp blank
      cases isBlank.symm.trans (isStart.2 c member)
  · next admitted =>
    have isStart : IsWordStart word := by simpa [IsWordStart, not_or] using admitted
    cases found : commonStartOf ((registry.candidates word).map String.toList) with
    | none => exact .stuck (.inr (.inl (not_exists.mp (sound.commonStartOf_eq_none_iff.mp found))))
    | some common =>
      have longest := sound.longestStart_of_commonStartOf found
      have present : ∃ name, registry.Candidate word name := by
        by_contra absent
        cases found.symm.trans (sound.commonStartOf_eq_none_iff.mpr absent)
      obtain ⟨name, candidate⟩ := present
      dsimp only
      split
      · next same => exact .stuck (.inr (.inr (same ▸ longest)))
      · next further =>
        have free : ¬registry.Stuck word := by
          rintro (notStart | absent | alsoLongest)
          · exact notStart isStart
          · exact absent name candidate
          · exact further (longest.unique alsoLongest candidate)
        have onlyIf : (registry.candidates word).length = 1 ↔ ∃! name, registry.Candidate word name :=
          sound.length_candidates_eq_one_iff
        split
        · next single => exact .whole free longest (onlyIf.mp single)
        · next several => exact .part free longest fun only => several (onlyIf.mpr only)

theorem Sound.complete?_eq_iff (sound : registry.Sound) {answer : Option String} :
    registry.complete? line = answer ↔ registry.Completes (Text.trimStart line) answer :=
  ⟨fun equal => equal ▸ sound.completes line, (sound.completes line).unique⟩

/-! ### Completing again -/

theorem trimStart_of_begins (isStart : IsWordStart word) {text : String}
    (begins : word.toList <+: text.toList) : Text.trimStart text = text := by
  obtain ⟨notEmpty, noBlank⟩ := isStart
  obtain ⟨rest, split⟩ := begins
  cases chars : word.toList with
  | nil => exact absurd (String.toList_eq_nil_iff.mp chars) notEmpty
  | cons first others =>
    have notBlank := noBlank first (by simp [chars])
    apply String.toList_inj.mp
    rw [Text.toList_trimStart, ← split, chars]
    simp [notBlank]

/-- A text is at the start of the longest start of its candidates. -/
theorem LongestStart.prefix_of_candidates {common : String}
    (longest : LongestStart (registry.Candidate word) common)
    (candidate : registry.Candidate word name) : word.toList <+: common.toList := by
  have atMost := longest.longest word fun _ other => other.begins
  refine List.prefix_of_prefix_length_le candidate.begins (longest.begins name candidate) ?_
  simpa only [String.length_toList] using atMost

/-- The longest start of the candidates has the same ones. -/
theorem LongestStart.candidate_iff {common : String}
    (longest : LongestStart (registry.Candidate word) common)
    (candidate : registry.Candidate word name) (other : String) :
    registry.Candidate common other ↔ registry.Candidate word other :=
  ⟨fun begins => ⟨begins.registered,
      (longest.prefix_of_candidates candidate).trans begins.begins⟩,
    fun begins => ⟨begins.registered, longest.begins other begins⟩⟩

/-- A completion is the longest start of the candidates, or that and a space, and cannot be completed
itself. -/
theorem Completes.stuck_again (completes : registry.Completes word (some completion)) :
    registry.Stuck (Text.trimStart completion) := by
  cases completes with
  | whole free longest only =>
    obtain ⟨name, candidate⟩ := exists_candidate_of_not_stuck free
    have isStart : IsWordStart word := not_not.mp fun notStart => free (.inl notStart)
    have begins := (longest.prefix_of_candidates candidate).trans
      (List.prefix_append _ " ".toList)
    rw [← String.toList_append] at begins
    rw [trimStart_of_begins isStart begins]
    exact .inl fun ⟨_, noBlank⟩ => absurd (noBlank ' ' (by simp)) (by decide)
  | part free longest notOnly =>
    obtain ⟨name, candidate⟩ := exists_candidate_of_not_stuck free
    have isStart : IsWordStart word := not_not.mp fun notStart => free (.inl notStart)
    rw [trimStart_of_begins isStart (longest.prefix_of_candidates candidate)]
    have sameCandidates := longest.candidate_iff candidate
    refine .inr (.inr ⟨fun other begins => begins.begins, fun other commonToAll => ?_⟩)
    exact longest.longest other fun name isCandidate =>
      commonToAll name ((sameCandidates name).mpr isCandidate)

/-- A completion goes on from what has been typed to the longest start of all names and aliases that
begin so, with a space if there is only one; there is none if nothing or a blank has been typed, if
there are no such names, or if this leads no further. A completion that is not the only one has the
same candidates, and no longer text has all of them. A completion cannot be completed again. -/
theorem Reachable.completes_to_longest_start (reachable : registry.Reachable) (line : String) :
    (∀ answer, registry.complete? line = answer ↔
      registry.Completes (Text.trimStart line) answer) ∧
    (∀ completion, registry.complete? line = some completion →
      ((¬∃! name, registry.Candidate (Text.trimStart line) name) →
        (∀ name, registry.Candidate completion name ↔
          registry.Candidate (Text.trimStart line) name) ∧
        ∀ longer : String, (∀ name, registry.Candidate (Text.trimStart line) name →
          registry.Candidate longer name) → longer.length ≤ completion.length) ∧
      registry.complete? completion = none) := by
  have sound := reachable.sound
  refine ⟨fun answer => sound.complete?_eq_iff, fun completion completed => ⟨fun notOnly => ?_, ?_⟩⟩
  · cases sound.complete?_eq_iff.mp completed with
    | whole _ _ only => exact absurd only notOnly
    | part free longest =>
      obtain ⟨name, candidate⟩ := exists_candidate_of_not_stuck free
      exact ⟨longest.candidate_iff candidate, fun longer hasAll =>
        longest.longest longer fun name isCandidate => (hasAll name isCandidate).begins⟩
  · exact sound.complete?_eq_iff.mpr (.stuck (sound.complete?_eq_iff.mp completed).stuck_again)

theorem completes_to_longest_start_stock :
    stock.Reachable ∧ stock.Completes "ad" (some "add-") ∧
      stock.Completes "add-c" (some "add-child ") ∧ stock.complete? "add-" = none := by
  have branching := reachable_stock.completes_to_longest_start " ad"
  have single := reachable_stock.completes_to_longest_start "add-c"
  have partly : stock.complete? " ad" = some "add-" := by decide +kernel
  have wholly : stock.complete? "add-c" = some "add-child " := by decide +kernel
  have typed : Text.trimStart " ad" = "ad" ∧ Text.trimStart "add-c" = "add-c" := by decide
  refine ⟨reachable_stock, ?_, ?_, (branching.2 "add-" partly).2⟩
  · rw [← typed.1]
    exact (branching.1 _).mp partly
  · rw [← typed.2]
    exact (single.1 _).mp wholly

end Registry

end MindMap
