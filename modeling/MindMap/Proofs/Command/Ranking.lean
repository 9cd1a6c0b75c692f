import Mathlib.Data.List.Infix
import Mathlib.Data.List.TakeWhile
import MindMap.Command.Execute
import MindMap.Command.Search
import MindMap.Proofs.Command.Clashes

/-!
# Rankings

A search ranks commands by score and, among equal scores, by name. As names are distinct the order is
strict, so a ranking is told by the hits in it: two ranked lists with the same hits are one
(`eq_of_ranked`). What another command does to a search is read off the hits by this, and so is what
an unknown name is told. The main statement is `Reachable.search_ranks`.

Sorting looks at scores alone. That it keeps the order of names is stability: a sort leaves the tied
entries as they stand, `filter_mergeSort_of_tied`.
-/

namespace MindMap

variable {ε : Type}

/-! ### Scores -/

theorem occursIn_iff {query text : List Char} : occursIn query text = true ↔ query <:+: text := by
  induction text with
  | nil => simp [occursIn]
  | cons c rest inductionHypothesis =>
    simp [occursIn, List.infix_cons_iff, inductionHypothesis]

/-- A query occurs in a text, the text in lower case. -/
def Occurs (query text : String) : Prop := query.toList <:+: (Text.toLower text).toList

instance (query text : String) : Decidable (Occurs query text) :=
  inferInstanceAs (Decidable (query.toList <:+: _))

/-- What a text is worth against a query, the text in lower case. -/
inductive MatchWorth.Earns (worth : MatchWorth) (text query : String) : Nat → Prop where
  | whole (same : Text.toLower text = query) : Earns worth text query worth.whole
  | atStart (differs : Text.toLower text ≠ query)
      (begins : query.toList <+: (Text.toLower text).toList) : Earns worth text query worth.atStart
  | within (notBegins : ¬query.toList <+: (Text.toLower text).toList) (occurs : Occurs query text) :
      Earns worth text query worth.within
  | nothing (absent : ¬Occurs query text) : Earns worth text query 0

theorem MatchWorth.earns_iff {worth : MatchWorth} {text query : String} {points : Nat} :
    worth.Earns text query points ↔ worth.score text query = points := by
  unfold score
  simp only [List.isPrefixOf_iff_prefix, occursIn_iff]
  constructor
  · rintro (same | ⟨differs, begins⟩ | ⟨notBegins, occurs⟩ | absent)
    · exact if_pos same
    · rw [if_neg differs, if_pos begins]
    · have differs : Text.toLower text ≠ query := fun same => notBegins (same ▸ List.prefix_rfl)
      rw [if_neg differs, if_neg notBegins]
      exact if_pos occurs
    · have notBegins : ¬query.toList <+: (Text.toLower text).toList := fun begins =>
        absent begins.isInfix
      have differs : Text.toLower text ≠ query := fun same => notBegins (same ▸ List.prefix_rfl)
      rw [if_neg differs, if_neg notBegins]
      exact if_neg absent
  · rintro rfl
    split
    · next same => exact .whole same
    · next differs =>
      split
      · next begins => exact .atStart differs begins
      · next notBegins =>
        split
        · next occurs => exact .within notBegins occurs
        · next absent => exact .nothing absent

/-- The most that one alias is worth against a query, if there are any. -/
structure Command.BestAlias (command : Command ε) (query : String) (best : Nat) : Prop where
  earned : best = 0 ∨ ∃ otherName ∈ command.aliases, MatchWorth.forAlias.Earns otherName query best
  most : ∀ otherName ∈ command.aliases, ∀ points,
    MatchWorth.forAlias.Earns otherName query points → points ≤ best

/-- The score of a command against a query in lower case: what its name and its best alias are worth,
and what it is worth that the query occurs in its description and in its category. -/
def Command.Earns (command : Command ε) (query : String) (points : Nat) : Prop :=
  ∃ name best, MatchWorth.forName.Earns command.name query name ∧ command.BestAlias query best ∧
    points = name + best
      + (if Occurs query command.description then MatchWorth.description else 0)
      + (if Occurs query command.categoryName then MatchWorth.category else 0)

theorem foldl_max_eq_iff {start best : Nat} {points : List Nat} :
    points.foldl max start = best ↔
      (best = start ∨ best ∈ points) ∧ start ≤ best ∧ ∀ point ∈ points, point ≤ best := by
  induction points generalizing start with
  | nil =>
    simp only [List.foldl_nil, List.not_mem_nil, or_false, false_implies, implies_true, and_true]
    omega
  | cons first rest inductionHypothesis =>
    rw [List.foldl_cons, inductionHypothesis, List.mem_cons, List.forall_mem_cons]
    grind

theorem Command.bestAlias_iff {command : Command ε} {query : String} {best : Nat} :
    command.BestAlias query best ↔
      (command.aliases.map fun otherName =>
        MatchWorth.forAlias.score otherName query).foldl max 0 = best := by
  rw [foldl_max_eq_iff]
  constructor
  · rintro ⟨earned, most⟩
    simp only [MatchWorth.earns_iff] at earned most
    exact ⟨by simpa using earned, Nat.zero_le _, by simpa using most⟩
  · rintro ⟨earned, -, most⟩
    constructor
    · simpa [MatchWorth.earns_iff] using earned
    · simpa [MatchWorth.earns_iff] using most

theorem Command.earns_iff {command : Command ε} {query : String} {points : Nat} :
    command.Earns query points ↔ command.score query = points := by
  unfold Earns score
  simp only [MatchWorth.earns_iff, bestAlias_iff, occursIn_iff]
  constructor
  · rintro ⟨_, _, rfl, rfl, rfl⟩
    rfl
  · rintro rfl
    exact ⟨_, _, rfl, rfl, rfl⟩

/-! ### Queries -/

namespace Text

theorem toList_trim (text : String) : (trim text).toList =
    ((text.toList.dropWhile isBlank).reverse.dropWhile isBlank).reverse := by
  simp [trim, trimEnd, toList_trimStart]

theorem trim_ne_empty {text : String} (notBlank : allBlank text = false) : trim text ≠ "" := by
  intro empty
  obtain ⟨c, member, isText⟩ := List.all_eq_false.mp notBlank
  have noText : (text.toList.dropWhile isBlank).reverse.dropWhile isBlank = [] := by
    simpa [toList_trim] using congrArg String.toList empty
  have trailing := List.dropWhile_eq_nil_iff.mp noText
  have leading : text.toList.dropWhile isBlank = [] := by
    by_contra some
    have blank := trailing _ (List.mem_reverse.mpr (List.head_mem some))
    cases blank.symm.trans (List.head_dropWhile_not isBlank some)
  exact isText (List.dropWhile_eq_nil_iff.mp leading c member)

theorem lowerChar_ne_nil (c : Char) : lowerChar c ≠ [] := by
  unfold lowerChar
  split
  · simp
  · split <;> simp

theorem toLower_ne_empty {text : String} (notEmpty : text ≠ "") : toLower text ≠ "" := by
  cases chars : text.toList with
  | nil => exact absurd (String.toList_eq_nil_iff.mp chars) notEmpty
  | cons c rest =>
    intro empty
    have noText := congrArg String.toList empty
    simp only [toLower, chars, String.toList_ofList, lowerFrom] at noText
    split at noText
    · split at noText <;> simp at noText
    · exact lowerChar_ne_nil c (List.append_eq_nil_iff.mp noText).1

end Text

/-! ### Ranked lists -/

/-- One hit of a search goes before another: it has the higher score, or the same and a name that
comes first. -/
def Outranks (hit other : Command ε × Nat) : Prop :=
  other.2 < hit.2 ∨ hit.2 = other.2 ∧ hit.1.name < other.1.name

theorem not_outranks_self (hit : Command ε × Nat) : ¬Outranks hit hit := by
  rintro (below | ⟨-, before⟩)
  · exact Nat.lt_irrefl _ below
  · exact String.lt_irrefl _ before

theorem Outranks.asymm {hit other : Command ε × Nat} (outranks : Outranks hit other) :
    ¬Outranks other hit := by
  rcases outranks with below | ⟨same, before⟩
  · rintro (above | ⟨same, -⟩) <;> omega
  · rintro (above | ⟨-, after⟩)
    · omega
    · exact String.lt_irrefl _ (String.lt_trans before after)

/-- Ranked lists with the same hits are equal. -/
theorem eq_of_ranked {hits others : List (Command ε × Nat)} (ranked : hits.Pairwise Outranks)
    (alsoRanked : others.Pairwise Outranks) (same : ∀ hit, hit ∈ hits ↔ hit ∈ others) :
    hits = others := by
  have distinct : ∀ {list : List (Command ε × Nat)}, list.Pairwise Outranks → list.Nodup := by
    refine fun ranked => ranked.imp ?_
    rintro hit _ outranks rfl
    exact not_outranks_self hit outranks
  have perm : hits.Perm others :=
    (List.perm_ext_iff_of_nodup (distinct ranked) (distinct alsoRanked)).mpr same
  exact perm.eq_of_pairwise (fun hit other _ _ outranks outranked =>
    absurd outranked outranks.asymm) ranked alsoRanked

/-- A sort leaves entries of which none goes before another where they stand. -/
theorem filter_mergeSort_of_tied {α : Type} {goesBefore : α → α → Bool}
    (trans : ∀ a b c, goesBefore a b = true → goesBefore b c = true → goesBefore a c = true)
    (total : ∀ a b, (goesBefore a b || goesBefore b a) = true) {entries : List α} {chosen : α → Bool}
    (tied : ∀ a b, chosen a = true → chosen b = true → goesBefore a b = true) :
    (entries.mergeSort goesBefore).filter chosen = entries.filter chosen := by
  have ordered : (entries.filter chosen).Pairwise fun a b => goesBefore a b = true :=
    List.pairwise_of_forall_mem_list fun a aChosen b bChosen =>
      tied a b (List.mem_filter.mp aChosen).2 (List.mem_filter.mp bChosen).2
  have kept := (List.sublist_mergeSort trans total ordered List.filter_sublist).filter chosen
  rw [List.filter_filter] at kept
  simp only [Bool.and_self] at kept
  exact (kept.eq_of_length
    ((List.mergeSort_perm entries goesBefore).filter chosen).length_eq.symm).symm

namespace Registry

variable {registry larger : Registry ε} {command added : Command ε} {query name : String}

/-- Commands with a positive score, in order of name. -/
def hits (registry : Registry ε) (query : String) : List (Command ε × Nat) :=
  (registry.all.map fun command => (command, command.score query)).filter (·.2 > 0)

/-- What is looked for when a query is not blank. -/
def sought (query : String) : String := Text.toLower (Text.trim query)

theorem searchScored_eq (notBlank : Text.allBlank query = false) :
    registry.searchScored query =
      (registry.hits (sought query)).mergeSort fun left right => right.2 ≤ left.2 := by
  have notEmpty : ¬(Text.toLower (Text.trim query)).isEmpty = true := fun empty =>
    Text.toLower_ne_empty (Text.trim_ne_empty notBlank) (String.isEmpty_iff.mp empty)
  unfold searchScored
  dsimp only
  rw [if_neg notEmpty]
  rfl

theorem mem_searchScored_iff (notBlank : Text.allBlank query = false) {points : Nat} :
    (command, points) ∈ registry.searchScored query ↔
      command ∈ registry.all ∧ command.Earns (sought query) points ∧ 0 < points := by
  rw [searchScored_eq notBlank, List.mem_mergeSort, hits, List.mem_filter, Command.earns_iff]
  simp only [List.mem_map, Prod.mk.injEq, gt_iff_lt, decide_eq_true_eq]
  constructor
  · rintro ⟨⟨_, registered, rfl, score⟩, positive⟩
    exact ⟨registered, score, positive⟩
  · rintro ⟨registered, score, positive⟩
    exact ⟨⟨command, registered, rfl, score⟩, positive⟩

theorem Sound.pairwise_all (sound : registry.Sound) : registry.all.Pairwise (·.name < ·.name) := by
  refine List.pairwise_map.mpr (registry.commands.increasing.imp_of_mem ?_)
  rintro ⟨name, command⟩ ⟨otherName, other⟩ entry otherEntry before
  have sameName := sound.named (Table.get?_eq_some_iff.mpr entry)
  have otherSame := sound.named (Table.get?_eq_some_iff.mpr otherEntry)
  rwa [sameName, otherSame]

/-- A search ranks its hits. -/
theorem Sound.searchScored_ranked (sound : registry.Sound)
    (notBlank : Text.allBlank query = false) :
    (registry.searchScored query).Pairwise Outranks := by
  rw [searchScored_eq notBlank]
  have byName : (registry.hits (sought query)).Pairwise (·.1.name < ·.1.name) := by
    refine List.Pairwise.filter _ (List.pairwise_map.mpr ?_)
    exact sound.pairwise_all
  have trans : ∀ a b c : Command ε × Nat,
      decide (b.2 ≤ a.2) = true → decide (c.2 ≤ b.2) = true → decide (c.2 ≤ a.2) = true := by
    simp only [decide_eq_true_eq]
    omega
  have total : ∀ a b : Command ε × Nat, (decide (b.2 ≤ a.2) || decide (a.2 ≤ b.2)) = true := by
    simp only [Bool.or_eq_true, decide_eq_true_eq]
    omega
  have byScore := List.pairwise_mergeSort trans total (registry.hits (sought query))
  refine List.pairwise_iff_forall_sublist.mpr fun {hit other} inOrder => ?_
  have atMost : other.2 ≤ hit.2 := by
    simpa using List.pairwise_iff_forall_sublist.mp byScore inOrder
  rcases Nat.lt_or_eq_of_le atMost with below | same
  · exact .inl below
  · -- Among the hits of this score, the sort has kept the order of names.
    have tied : (((registry.hits (sought query)).mergeSort fun left right => right.2 ≤ left.2).filter
        fun entry => entry.2 == hit.2) =
          (registry.hits (sought query)).filter fun entry => entry.2 == hit.2 :=
      filter_mergeSort_of_tied trans total (by simp +contextual)
    have kept := inOrder.filter fun entry => entry.2 == hit.2
    simp only [tied, List.filter_cons, same, beq_self_eq_true, if_true, List.filter_nil] at kept
    exact .inr ⟨same.symm, List.pairwise_iff_forall_sublist.mp (byName.filter _) kept⟩

/-! ### Other commands -/

theorem Sound.mem_all_register_iff (sound : registry.Sound)
    (registered : (register added).run registry = .ok () larger) :
    command ∈ registry.all ↔ command ∈ larger.all ∧ command.name ≠ added.name := by
  obtain ⟨free, rfl⟩ := free_of_register registered
  rw [sound.mem_all_iff, (sound.add free).mem_all_iff, get?_commands_add]
  by_cases same : command.name = added.name
  · simp [same, free.name]
  · simp [same]

theorem Sound.mem_all_unregister_iff (sound : registry.Sound) :
    command ∈ (registry.unregister name).2.all ↔ command ∈ registry.all ∧ command.name ≠ name := by
  rw [(sound.unregister name).mem_all_iff, sound.mem_all_iff]
  have found : (registry.unregister name).2.commands.get? command.name =
      if command.name = name then none else registry.commands.get? command.name := by
    unfold Registry.unregister
    cases named : registry.commands.get? name with
    | none =>
      by_cases same : command.name = name
      · simp [same, named]
      · simp [same]
    | some other => exact Table.get?_erase ..
  rw [found]
  by_cases same : command.name = name
  · simp [same]
  · simp [same]

/-- Where the one registry has what the other has without the command of some name, a search finds in
the one what it finds in the other, that command left out. -/
theorem Sound.searchScored_eq_filter (sound : registry.Sound) (largerSound : larger.Sound)
    (notBlank : Text.allBlank query = false)
    (without : ∀ command, command ∈ registry.all ↔ command ∈ larger.all ∧ command.name ≠ name) :
    registry.searchScored query = (larger.searchScored query).filter (·.1.name ≠ name) := by
  refine eq_of_ranked (sound.searchScored_ranked notBlank)
    ((largerSound.searchScored_ranked notBlank).filter _) fun ⟨command, points⟩ => ?_
  rw [List.mem_filter, mem_searchScored_iff notBlank, mem_searchScored_iff notBlank, without]
  simp only [ne_eq, decide_not, Bool.not_eq_true', decide_eq_false_iff_not]
  tauto

/-! ### Suggestions -/

/-- What is told about a word that names no command, with the best hit of a search for it. -/
inductive Suggests (word : String) : List (Command ε × Nat) → String → Prop where
  | nothing : Suggests word [] ("Unknown command: " ++ word)
  | first (best : Command ε) (points : Nat) (others : List (Command ε × Nat)) :
      Suggests word ((best, points) :: others)
        ("Unknown command: " ++ word ++ " (did you mean '" ++ best.name ++ "'?)")

theorem suggests_unknownCommand (registry : Registry ε) (word : String) :
    Suggests word (registry.searchScored word) (registry.unknownCommand word) := by
  unfold unknownCommand search
  cases registry.searchScored word with
  | nil => exact .nothing
  | cons hit others => exact .first hit.1 hit.2 others

/-- A search for something finds the commands with a positive score, each once, by falling score and by
name among equal scores. What else is registered does not matter: with one command more, a search finds
the same hits in the same order, with the same scores, and perhaps that command among them; with one
less, that command alone is missing. A word that names no command is answered with the first hit, if
there is one. -/
theorem Reachable.search_ranks [Executor ε] (reachable : registry.Reachable)
    (notBlank : Text.allBlank query = false) :
    (∀ command points, (command, points) ∈ registry.searchScored query ↔
      command ∈ registry.all ∧ command.Earns (Text.toLower (Text.trim query)) points ∧ 0 < points) ∧
    ((registry.searchScored query).map (·.1.name)).Nodup ∧
    (registry.searchScored query).Pairwise Outranks ∧
    (∀ added larger, (register added).run registry = .ok () larger →
      (larger.searchScored query).filter (·.1.name ≠ added.name) = registry.searchScored query) ∧
    (∀ name, (registry.unregister name).2.searchScored query =
      (registry.searchScored query).filter (·.1.name ≠ name)) ∧
    (registry.get? query = none → ∀ {σ : Type} [Host σ] (state : σ) (args : CommandLine.Arguments)
      (line : String), ∃ told, Suggests query (registry.searchScored query) told ∧
        registry.execute ⟨query, args, line⟩ state = (.refused told, state)) := by
  have sound := reachable.sound
  have ranked := sound.searchScored_ranked notBlank
  refine ⟨fun command points => mem_searchScored_iff notBlank, ?_, ranked,
    fun added larger registered => ?_, fun name => ?_, fun unnamed σ _ state args line => ?_⟩
  · refine List.pairwise_map.mpr (ranked.imp_of_mem ?_)
    rintro ⟨command, points⟩ ⟨other, otherPoints⟩ member otherMember outranks sameName
    obtain ⟨registered, earns, -⟩ := (mem_searchScored_iff notBlank).mp member
    obtain ⟨otherRegistered, otherEarns, -⟩ := (mem_searchScored_iff notBlank).mp otherMember
    -- Commands of one name are one, and have one score.
    have found := sound.mem_all_iff.mp registered
    rw [sameName, sound.mem_all_iff.mp otherRegistered] at found
    cases found
    obtain rfl := (Command.earns_iff.mp earns).symm.trans (Command.earns_iff.mp otherEarns)
    exact not_outranks_self _ outranks
  · obtain ⟨free, isAdded⟩ := free_of_register registered
    exact (sound.searchScored_eq_filter (isAdded ▸ sound.add free) notBlank fun command =>
      sound.mem_all_register_iff registered).symm
  · exact (sound.unregister name).searchScored_eq_filter sound notBlank fun command =>
      sound.mem_all_unregister_iff
  · exact ⟨_, registry.suggests_unknownCommand query, execute_unnamed unnamed state⟩

attribute [local instance] TextWidth.perCharacter

/-- The query is no name here; it begins `edit` and occurs in its category too. -/
theorem search_ranks_patched :
    patched.Reachable ∧ patched.get? "ed" = none ∧
      (∃ command, (command, 130) ∈ patched.searchScored "ed" ∧ "edit" ∈ command.names) ∧
      (patched.searchScored "ed").Pairwise Outranks ∧
      ((patched.add fold).searchScored "ed").filter (·.1.name ≠ "fold") =
        patched.searchScored "ed" ∧
      ∃ told, Suggests "ed" (patched.searchScored "ed") told ∧
        patched.execute ⟨"ed", .empty, "ed"⟩ Session.sprouting =
          (.refused told, Session.sprouting) := by
  have reachable : patched.Reachable := ⟨_, rfl⟩
  have unnamed : patched.get? "ed" = none := rfl
  have notBlank : Text.allBlank "ed" = false := by decide
  obtain ⟨hits, -, ranked, more, -, suggests⟩ := reachable.search_ranks notBlank
  have accepted : (register fold).run patched = .ok () (patched.add fold) := rfl
  obtain ⟨command, found, score⟩ : ∃ command, patched.get? "edit" = some command ∧
      command.score (Text.toLower (Text.trim "ed")) = 130 := ⟨_, rfl, by decide +kernel⟩
  obtain ⟨registered, isName⟩ := reachable.sound.get?_eq_some_iff.mp found
  have isHit : (command, 130) ∈ patched.searchScored "ed" :=
    (hits command 130).mpr ⟨registered, Command.earns_iff.mpr score, by decide⟩
  exact ⟨reachable, unnamed, ⟨command, isHit, isName⟩, ranked, more fold _ accepted,
    suggests unnamed Session.sprouting .empty "ed"⟩

end Registry

end MindMap
