import Mathlib.Data.List.Induction
import Mathlib.Data.List.Nodup
import MindMap.Proofs.Command.StockLines
import MindMap.Proofs.CommandLine.Continuation
import MindMap.Proofs.Session.Runs

/-!
# Names of registered commands

A registry keeps its commands in one table and its aliases in another. `Sound` says how the two
belong together: an alias is held for its owner exactly as long as the owner is registered, and no
word stands for two commands. Whatever is registered or unregistered, accepted or refused, a registry
stays sound. From this follows what a word names and that no registration changes it: `names_resolve`.

A line that can be read does the same under an alias as under the name. Of a line that cannot, the
user is told where in the line the trouble is, and that depends on the words before it.
-/

namespace MindMap

open CommandLine

/-- What can be asked of a registry. -/
inductive RegistryChange (ε : Type) where
  | register (command : Command ε)
  | unregister (name : String)
  | registerStock (executor : Action → ε)

/-- The registry that a step leaves, whether it succeeds or not. -/
def Registration.after {ε α : Type} (step : Registration ε α) (registry : Registry ε) : Registry ε :=
  match step.run registry with
  | .ok _ reached => reached
  | .error _ reached => reached

namespace Registry

variable {ε : Type} {registry : Registry ε} {command : Command ε} {word : String}

/-- The registry after a change, which may be refused. -/
def change (registry : Registry ε) : RegistryChange ε → Registry ε
  | .register command => (register command).after registry
  | .unregister name => (registry.unregister name).2
  | .registerStock executor => (registry.registerStock executor).2

/-- The registry after changes, one after another. -/
def changeAll (registry : Registry ε) (changes : List (RegistryChange ε)) : Registry ε :=
  changes.foldl change registry

/-- Changes lead here from a registry without commands. -/
def Reachable (registry : Registry ε) : Prop := ∃ changes, empty.changeAll changes = registry

/-! ### Sound registries -/

/-- How the two tables of a registry belong together. -/
structure Sound (registry : Registry ε) : Prop where
  /-- A command is kept under its name. -/
  named : ∀ {name command}, registry.commands.get? name = some command → command.name = name
  /-- An alias is held for a command that lists it. -/
  owned : ∀ {word owner}, registry.aliases.get? word = some owner ↔
    ∃ command, registry.commands.get? owner = some command ∧ word ∈ command.aliases
  /-- No alias is a name. -/
  apart : ∀ {word owner}, registry.aliases.get? word = some owner →
    registry.commands.get? word = none
  /-- No command lists an alias twice. -/
  nodup : ∀ {name command}, registry.commands.get? name = some command → command.aliases.Nodup

theorem sound_empty : (empty : Registry ε).Sound := by
  constructor <;> simp [empty]

namespace Sound

theorem mem_all_iff (sound : registry.Sound) :
    command ∈ registry.all ↔ registry.commands.get? command.name = some command := by
  constructor
  · intro registered
    obtain ⟨⟨name, other⟩, entry, rfl⟩ := List.mem_map.mp registered
    have found := Table.get?_eq_some_iff.mpr entry
    rwa [sound.named found]
  · intro found
    exact List.mem_map_of_mem (f := Prod.snd) (Table.get?_eq_some_iff.mp found)

/-- A word names a command exactly if it is its name or one of its aliases. -/
theorem get?_eq_some_iff (sound : registry.Sound) :
    registry.get? word = some command ↔ command ∈ registry.all ∧ word ∈ command.names := by
  rw [sound.mem_all_iff, Command.names, List.mem_cons]
  unfold get?
  constructor
  · intro found
    split at found
    · next byName =>
      cases found
      have sameName := sound.named byName
      exact ⟨by rwa [sameName], .inl sameName.symm⟩
    · obtain ⟨owner, isAlias, byName⟩ := Option.bind_eq_some_iff.mp found
      obtain ⟨other, otherByName, listed⟩ := sound.owned.mp isAlias
      obtain rfl : command = other := Option.some.inj (byName.symm.trans otherByName)
      exact ⟨by rwa [sound.named byName], .inr listed⟩
  · rintro ⟨byName, rfl | listed⟩
    · rw [byName]
    · have isAlias := sound.owned.mpr ⟨command, byName, listed⟩
      rw [sound.apart isAlias, isAlias]
      exact byName

theorem nodup_names (sound : registry.Sound) (registered : command ∈ registry.all) :
    command.names.Nodup := by
  have byName := sound.mem_all_iff.mp registered
  refine List.nodup_cons.mpr ⟨fun listed => ?_, sound.nodup byName⟩
  have unnamed := sound.apart (sound.owned.mpr ⟨command, byName, listed⟩)
  cases byName.symm.trans unnamed

/-- No word is twice among the names and aliases of all commands. -/
theorem nodup_flatMap_names (sound : registry.Sound) :
    (registry.all.flatMap (·.names)).Nodup := by
  refine List.nodup_flatMap.mpr ⟨fun command => sound.nodup_names, ?_⟩
  refine List.pairwise_map.mpr (registry.commands.increasing.imp_of_mem ?_)
  rintro ⟨name, command⟩ ⟨otherName, other⟩ entry otherEntry below word isName isOther
  have found := Table.get?_eq_some_iff.mpr entry
  have otherFound := Table.get?_eq_some_iff.mpr otherEntry
  have resolved := sound.get?_eq_some_iff.mpr ⟨List.mem_map_of_mem entry, isName⟩
  have otherResolved := sound.get?_eq_some_iff.mpr ⟨List.mem_map_of_mem otherEntry, isOther⟩
  -- The word names both commands, so they are one, and kept under one name.
  obtain rfl : command = other := Option.some.inj (resolved.symm.trans otherResolved)
  obtain rfl : name = otherName := (sound.named found).symm.trans (sound.named otherFound)
  exact String.lt_irrefl _ below

end Sound

/-! ### Registering -/

/-- All names of a command are free, and it has none twice. -/
structure Free (registry : Registry ε) (command : Command ε) : Prop where
  name : registry.commands.get? command.name = none
  nameNoAlias : registry.aliases.get? command.name = none
  aliases : ∀ word ∈ command.aliases,
    registry.commands.get? word = none ∧ registry.aliases.get? word = none
  nodup : command.names.Nodup

theorem free_of_aliasOwner? {name : String} {before : List String}
    (free : registry.aliasOwner? name before word = none) :
    (registry.commands.get? word = none ∧ registry.aliases.get? word = none) ∧
      word ≠ name ∧ word ∉ before := by
  unfold aliasOwner? at free
  split at free
  · cases free
  · next notName =>
    split at free
    · cases free
    · next noAlias =>
      have differs : word ≠ name ∧ word ∉ before := by simpa using free
      exact ⟨⟨by simpa [Table.contains] using notName, noAlias⟩, differs⟩

theorem free_of_firstAliasClash? {name : String} {before others : List String}
    (noClash : registry.firstAliasClash? name before others = none) :
    (∀ word ∈ others,
      (registry.commands.get? word = none ∧ registry.aliases.get? word = none) ∧
        word ≠ name ∧ word ∉ before) ∧ others.Nodup := by
  induction others generalizing before with
  | nil => simp
  | cons first rest inductionHypothesis =>
    unfold firstAliasClash? at noClash
    split at noClash
    · cases noClash
    · next free =>
      obtain ⟨restFree, restNodup⟩ := inductionHypothesis noClash
      refine ⟨List.forall_mem_cons.mpr ⟨free_of_aliasOwner? free, fun word later => ?_⟩,
        List.nodup_cons.mpr ⟨fun again => ?_, restNodup⟩⟩
      · obtain ⟨isFree, differs, notBefore⟩ := restFree word later
        exact ⟨isFree, differs, fun before => notBefore (List.mem_cons_of_mem _ before)⟩
      · exact (restFree first again).2.2 List.mem_cons_self

/-- A command is registered only if all its names are free. -/
theorem free_of_register {larger : Registry ε}
    (registered : (register command).run registry = .ok () larger) :
    registry.Free command ∧ larger = registry.add command := by
  obtain ⟨notTaken, rfl⟩ := register_eq_ok registered
  refine ⟨?_, rfl⟩
  rw [run_register] at registered
  split at registered
  · cases registered
  · split at registered
    · cases registered
    · split at registered
      · cases registered
      · next noAlias =>
        split at registered
        · cases registered
        · next noClash =>
          obtain ⟨free, nodup⟩ := free_of_firstAliasClash? noClash
          exact ⟨notTaken, noAlias, fun word listed => (free word listed).1,
            List.nodup_cons.mpr ⟨fun listed => (free _ listed).2.1 rfl, nodup⟩⟩

theorem get?_commands_add (registry : Registry ε) (command : Command ε) (name : String) :
    (registry.add command).commands.get? name =
      if name = command.name then some command else registry.commands.get? name :=
  Table.get?_insert ..

theorem get?_aliases_add (registry : Registry ε) (command : Command ε) (word : String) :
    (registry.add command).aliases.get? word =
      if word ∈ command.aliases then some command.name else registry.aliases.get? word := by
  unfold add
  dsimp only
  generalize registry.aliases = table
  induction command.aliases generalizing table with
  | nil => simp
  | cons first rest inductionHypothesis =>
    rw [List.foldl_cons, inductionHypothesis, Table.get?_insert]
    by_cases later : word ∈ rest <;> by_cases isFirst : word = first <;> simp [later, isFirst]

theorem Sound.add (sound : registry.Sound) (free : registry.Free command) :
    (registry.add command).Sound := by
  constructor
  case named =>
    intro name other found
    rw [get?_commands_add] at found
    split at found
    · next same =>
      cases found
      exact same.symm
    · exact sound.named found
  case owned =>
    intro word owner
    rw [get?_aliases_add, get?_commands_add]
    by_cases isOwner : owner = command.name
    · -- No alias was held for the new name before.
      subst isOwner
      have unowned : registry.aliases.get? word ≠ some command.name := by
        intro held
        obtain ⟨other, found, -⟩ := sound.owned.mp held
        cases found.symm.trans free.name
      by_cases listed : word ∈ command.aliases <;> simp [listed, unowned]
    · rw [if_neg isOwner, ← sound.owned]
      by_cases listed : word ∈ command.aliases
      · simp [listed, (free.aliases word listed).2, Ne.symm isOwner]
      · simp [listed]
  case apart =>
    intro word owner held
    rw [get?_aliases_add] at held
    rw [get?_commands_add]
    split at held
    · next listed =>
      have differs : word ≠ command.name := by
        rintro rfl
        exact (List.nodup_cons.mp free.nodup).1 listed
      rw [if_neg differs]
      exact (free.aliases word listed).1
    · have differs : word ≠ command.name := by
        rintro rfl
        cases held.symm.trans free.nameNoAlias
      rw [if_neg differs]
      exact sound.apart held
  case nodup =>
    intro name other found
    rw [get?_commands_add] at found
    split at found
    · cases found
      exact (List.nodup_cons.mp free.nodup).2
    · exact sound.nodup found

/-- A word keeps naming the command that it names, whatever is added under free names. -/
theorem Sound.get?_add (sound : registry.Sound) {other : Command ε} (free : registry.Free other)
    (resolved : registry.get? word = some command) :
    (registry.add other).get? word = some command := by
  obtain ⟨registered, isName⟩ := sound.get?_eq_some_iff.mp resolved
  have larger := sound.add free
  refine larger.get?_eq_some_iff.mpr ⟨larger.mem_all_iff.mpr ?_, isName⟩
  have byName := sound.mem_all_iff.mp registered
  have differs : command.name ≠ other.name := by
    intro same
    rw [same, free.name] at byName
    cases byName
  rwa [get?_commands_add, if_neg differs]

/-- A registry that has come from another by registering: it is sound, and words name what they
named. -/
def Extends (registry larger : Registry ε) : Prop :=
  larger.Sound ∧ ∀ {word command}, registry.get? word = some command →
    larger.get? word = some command

theorem Sound.extends_register (sound : registry.Sound) (command : Command ε) :
    registry.Extends ((register command).after registry) := by
  unfold Registration.after
  split
  · next larger registered =>
    obtain ⟨free, rfl⟩ := free_of_register registered
    exact ⟨sound.add free, sound.get?_add free⟩
  · next error reached refused =>
    obtain rfl := eq_of_register_eq_error refused
    exact ⟨sound, id⟩

/-- Registering several commands is registering one after another. -/
theorem registerAll_cons (registry : Registry ε) (first : Command ε) (rest : List (Command ε)) :
    (registry.registerAll (first :: rest)).2 =
      (((register first).after registry).registerAll rest).2 := by
  rw [registerAll, Registration.after]
  cases (register first).run registry <;> rfl

theorem Sound.extends_registerAll (sound : registry.Sound) (commands : List (Command ε)) :
    registry.Extends (registry.registerAll commands).2 := by
  induction commands generalizing registry with
  | nil => exact ⟨sound, id⟩
  | cons first rest inductionHypothesis =>
    obtain ⟨onceSound, once⟩ := sound.extends_register first
    obtain ⟨largestSound, keeps⟩ := inductionHypothesis onceSound
    rw [registerAll_cons]
    exact ⟨largestSound, fun resolved => keeps (once resolved)⟩

/-! ### Unregistering -/

theorem get?_foldl_erase (names : List String) (table : Table String) (word : String) :
    (names.foldl Table.erase table).get? word = if word ∈ names then none else table.get? word := by
  induction names generalizing table with
  | nil => simp
  | cons first rest inductionHypothesis =>
    rw [List.foldl_cons, inductionHypothesis, Table.get?_erase]
    by_cases later : word ∈ rest <;> by_cases isFirst : word = first <;> simp [later, isFirst]

/-- The aliases that go with a command are its own, though they are removed without a look at whose
they are. -/
theorem Sound.unregister (sound : registry.Sound) (name : String) :
    (registry.unregister name).2.Sound := by
  unfold Registry.unregister
  split
  · exact sound
  · next command found =>
    constructor
    case named =>
      intro other otherCommand otherFound
      rw [Table.get?_erase] at otherFound
      split at otherFound
      · cases otherFound
      · exact sound.named otherFound
    case owned =>
      intro word owner
      rw [get?_foldl_erase, Table.get?_erase]
      have ownedByIt : word ∈ command.aliases → registry.aliases.get? word = some name :=
        fun listed => sound.owned.mpr ⟨command, found, listed⟩
      by_cases isOwner : owner = name
      · subst isOwner
        have unlisted : word ∉ command.aliases → registry.aliases.get? word ≠ some owner := by
          intro unlisted held
          obtain ⟨other, otherFound, listed⟩ := sound.owned.mp held
          cases found.symm.trans otherFound
          exact unlisted listed
        by_cases listed : word ∈ command.aliases <;> simp [listed, unlisted]
      · rw [if_neg isOwner, ← sound.owned]
        by_cases listed : word ∈ command.aliases
        · simp [listed, ownedByIt listed, Ne.symm isOwner]
        · simp [listed]
    case apart =>
      intro word owner held
      rw [get?_foldl_erase] at held
      split at held
      · cases held
      · rw [Table.get?_erase, sound.apart held, ite_self]
    case nodup =>
      intro other otherCommand otherFound
      rw [Table.get?_erase] at otherFound
      split at otherFound
      · cases otherFound
      · exact sound.nodup otherFound

/-! ### Reachable registries -/

theorem Sound.change (sound : registry.Sound) (change : RegistryChange ε) :
    (registry.change change).Sound := by
  cases change with
  | register command => exact (sound.extends_register command).1
  | unregister name => exact sound.unregister name
  | registerStock executor => exact (sound.extends_registerAll _).1

theorem Reachable.sound (reachable : registry.Reachable) : registry.Sound := by
  obtain ⟨changes, rfl⟩ := reachable
  induction changes using List.reverseRecOn with
  | nil => exact sound_empty
  | append_singleton before change inductionHypothesis =>
    rw [changeAll, List.foldl_append]
    exact inductionHypothesis.change change

theorem reachable_stock : stock.Reachable := ⟨[.registerStock id], rfl⟩

/-! ### Lines under an alias -/

section

variable [Executor ε]

/-- Two words that a command goes by, on any host. Only where a line cannot be read does it matter
which of them was written: it has no effect then, and the place of the quote that is never closed is
counted from the beginning of the line. -/
structure Synonyms (registry : Registry ε) (word other : String) : Prop where
  invocations : ∀ {σ : Type} [Host σ] (state : σ) (args : Arguments) (line otherLine : String),
    registry.execute ⟨word, args, line⟩ state = registry.execute ⟨other, args, otherLine⟩ state
  lines : ∀ {σ : Type} [Host σ] (state : σ) {line otherLine : String} {rest : List String},
    words line = .ok (word :: rest) → words otherLine = .ok (other :: rest) →
      registry.executeLine line state = registry.executeLine otherLine state
  unreadable : ∀ {σ : Type} [Host σ] (state : σ) {head otherHead rest : String}
    {quote : Char} {position : Nat}, SpellsLine [word] head.toList →
      SpellsLine [other] otherHead.toList → StartsApart rest →
      words rest = .error (.unclosedQuote quote position) →
      registry.executeLine (head ++ rest) state =
        (.refused (LineError.unclosedQuote quote (head.utf8ByteSize + position)).message, state) ∧
      registry.executeLine (otherHead ++ rest) state =
        (.refused (LineError.unclosedQuote quote (otherHead.utf8ByteSize + position)).message, state)

theorem executeLine_of_words {σ : Type} [Host σ] {line : String} {list : List String}
    (read : words line = .ok (word :: list)) (state : σ) :
    registry.executeLine line state = registry.execute ⟨word, .ofWords list, line⟩ state := by
  unfold executeLine Invocation.ofLine
  rw [read]
  rfl

theorem executeLine_of_error {σ : Type} [Host σ] {line : String} {error : LineError}
    (unreadable : words line = .error error) (state : σ) :
    registry.executeLine line state = (.refused error.message, state) := by
  unfold executeLine Invocation.ofLine
  rw [unreadable]
  rfl

theorem synonyms_of_get? {other : String} (same : registry.get? word = registry.get? other)
    (resolved : registry.get? word = some command) : registry.Synonyms word other := by
  have otherResolved := same.symm.trans resolved
  have sameRun : ∀ {σ : Type} [Host σ] (state : σ) (args : Arguments) (line otherLine : String),
      registry.execute ⟨word, args, line⟩ state =
        registry.execute ⟨other, args, otherLine⟩ state := by
    intro σ _ state args line otherLine
    unfold execute
    rw [resolved, otherResolved]
    dsimp only
    unfold check
    cases violations command.parameters args <;> rfl
  refine ⟨sameRun, ?_, ?_⟩
  · intro σ _ state line otherLine rest read otherRead
    rw [executeLine_of_words read, executeLine_of_words otherRead]
    exact sameRun ..
  · intro σ _ state head otherHead rest quote position spells otherSpells apart unreadable
    have positions : ∀ {first before : String}, SpellsLine [first] before.toList →
        words (before ++ rest) = .error (.unclosedQuote quote (before.utf8ByteSize + position)) := by
      intro first before spells
      rw [words_append (words_of_spellsLine spells) apart, unreadable]
      rfl
    exact ⟨executeLine_of_error (positions spells) state,
      executeLine_of_error (positions otherSpells) state⟩

/-- Whatever has been registered and unregistered, the aliases held are those of the registered
commands, each for its owner; no alias is a name, and no two names or aliases are one. So a word
names the one command that it is a name or an alias of, an alias does what the name does, and
registering keeps what a word names already. -/
theorem Reachable.names_resolve (reachable : registry.Reachable) :
    (∀ word owner, registry.aliases.get? word = some owner ↔
      ∃ command ∈ registry.all, command.name = owner ∧ word ∈ command.aliases) ∧
    (∀ word, registry.aliases.contains word = true → registry.commands.contains word = false) ∧
    (registry.all.flatMap (·.names)).Nodup ∧
    (∀ word command, registry.get? word = some command ↔
      command ∈ registry.all ∧ word ∈ command.names) ∧
    (∀ command ∈ registry.all, ∀ other ∈ command.aliases,
      registry.Synonyms command.name other) ∧
    ∀ word command, registry.get? word = some command →
      (∀ added, (registry.change (.register added)).get? word = some command) ∧
      ∀ executor, (registry.change (.registerStock executor)).get? word = some command := by
  have sound := reachable.sound
  refine ⟨fun word owner => ?_, fun word isAlias => ?_, sound.nodup_flatMap_names,
    fun word command => sound.get?_eq_some_iff, fun command registered other listed => ?_,
    fun word command resolved => ⟨fun added => ?_, fun executor => ?_⟩⟩
  · rw [sound.owned]
    constructor
    · rintro ⟨command, found, listed⟩
      obtain rfl := sound.named found
      exact ⟨command, sound.mem_all_iff.mpr found, rfl, listed⟩
    · rintro ⟨command, registered, rfl, listed⟩
      exact ⟨command, sound.mem_all_iff.mp registered, listed⟩
  · obtain ⟨owner, held⟩ := Option.isSome_iff_exists.mp isAlias
    rw [Table.contains, sound.apart held]
    rfl
  · have byName : registry.get? command.name = some command :=
      sound.get?_eq_some_iff.mpr ⟨registered, List.mem_cons_self⟩
    have byAlias : registry.get? other = some command :=
      sound.get?_eq_some_iff.mpr ⟨registered, List.mem_cons_of_mem _ listed⟩
    exact synonyms_of_get? (byName.trans byAlias.symm) byName
  · exact (sound.extends_register added).2 resolved
  · exact (sound.extends_registerAll _).2 resolved

end

attribute [local instance] TextWidth.perCharacter

/-- A command of the user's own, under an alias that the stock would use too. -/
def chop : Command Action := { name := "chop", aliases := ["dd"], executor := .delete }

/-- The stock commands beside `chop`, which came first, and without `toggle`, removed again. -/
def patched : Registry Action :=
  empty.changeAll [.register chop, .registerStock id, .unregister "toggle"]

theorem names_resolve_patched :
    patched.Reachable ∧ patched.Synonyms "chop" "dd" ∧
      patched.get? "delete" = none ∧ patched.aliases.get? "za" = none := by
  have reachable : patched.Reachable := ⟨_, rfl⟩
  obtain ⟨-, -, -, resolves, synonyms, -⟩ := reachable.names_resolve
  obtain ⟨registered, -⟩ := (resolves "dd" chop).mp rfl
  exact ⟨reachable, synonyms chop registered "dd" (by decide), rfl, rfl⟩

/-- Where a line cannot be read, the reply may tell an alias from the name. -/
theorem alias_moves_unclosed_quote :
    stock.Reachable ∧ (∃ command, stock.get? "delete" = some command ∧ "dd" ∈ command.aliases) ∧
      stock.executeLine "delete 'x" Session.sprouting ≠
        stock.executeLine "dd 'x" Session.sprouting := by
  refine ⟨reachable_stock, ⟨_, rfl, by decide⟩, fun same => ?_⟩
  have byName : (stock.executeLine "delete 'x" Session.sprouting).1 =
    .refused "Unclosed quote (') starting at position 7" := rfl
  have byAlias : (stock.executeLine "dd 'x" Session.sprouting).1 =
    .refused "Unclosed quote (') starting at position 3" := rfl
  have told := (byName.symm.trans (congrArg Prod.fst same)).trans byAlias
  exact absurd (Reply.refused.inj told) (by decide)

end Registry

end MindMap
