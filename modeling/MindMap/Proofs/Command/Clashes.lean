import Mathlib.Data.List.Pairwise
import Mathlib.Data.List.Perm.Basic
import MindMap.Proofs.Command.Registration

/-!
# Clashes of names

A command is refused exactly if its name is blank or one of its names clashes: with a name of a
registered command, or with another of its own. What a registration adds, unregistering the name takes
away again. Commands that can be registered one after another can be in any order, and the registry is
the same in the end: `Compatible` says without an order what lets them in. The main statement is
`Reachable.registration_is_exact`.

Which of several clashes is reported does depend on the order of the checks, and is not looked at here.
-/

namespace MindMap

namespace Registry

variable {ε : Type} {registry larger : Registry ε} {command other : Command ε}
  {commands others : List (Command ε)} {word : String}

/-- Two registries in which every look-up agrees are equal. -/
theorem ext_get? {left right : Registry ε}
    (commands : ∀ name, left.commands.get? name = right.commands.get? name)
    (aliases : ∀ word, left.aliases.get? word = right.aliases.get? word) : left = right := by
  obtain ⟨leftCommands, leftAliases⟩ := left
  obtain ⟨rightCommands, rightAliases⟩ := right
  obtain rfl : leftCommands = rightCommands := Table.ext_get? commands
  obtain rfl : leftAliases = rightAliases := Table.ext_get? aliases
  rfl

/-! ### Exactly the clash-free -/

theorem aliasOwner?_of_free {name : String} {before : List String}
    (unnamed : registry.commands.get? word = none) (noAlias : registry.aliases.get? word = none)
    (differs : word ≠ name) (fresh : word ∉ before) :
    registry.aliasOwner? name before word = none := by
  simp [aliasOwner?, Table.contains, unnamed, noAlias, differs, fresh]

theorem firstAliasClash?_of_free {name : String} {before aliases : List String}
    (free : ∀ word ∈ aliases,
      registry.commands.get? word = none ∧ registry.aliases.get? word = none)
    (unlisted : name ∉ aliases) (nodup : aliases.Nodup) (fresh : ∀ word ∈ aliases, word ∉ before) :
    registry.firstAliasClash? name before aliases = none := by
  induction aliases generalizing before with
  | nil => rfl
  | cons first rest inductionHypothesis =>
    obtain ⟨firstFree, restFree⟩ := List.forall_mem_cons.mp free
    obtain ⟨notAgain, restNodup⟩ := List.nodup_cons.mp nodup
    obtain ⟨differs, restUnlisted⟩ := List.ne_and_not_mem_of_not_mem_cons unlisted
    obtain ⟨firstFresh, restFresh⟩ := List.forall_mem_cons.mp fresh
    rw [firstAliasClash?,
      aliasOwner?_of_free firstFree.1 firstFree.2 (Ne.symm differs) firstFresh]
    refine inductionHypothesis restFree restUnlisted restNodup fun word later => ?_
    rintro (_ | ⟨_, before⟩)
    · exact notAgain later
    · exact restFresh word later before

/-- A command is registered exactly if its name is not blank and all its names are free. -/
theorem register_eq_ok_iff : (register command).run registry = .ok () larger ↔
    Text.allBlank command.name = false ∧ registry.Free command ∧ larger = registry.add command := by
  constructor
  · intro registered
    refine ⟨?_, free_of_register registered⟩
    cases blank : Text.allBlank command.name with
    | false => rfl
    | true => simp [run_register, blank] at registered
  · rintro ⟨notBlank, free, rfl⟩
    obtain ⟨unlisted, nodup⟩ := List.nodup_cons.mp free.nodup
    have noClash := firstAliasClash?_of_free free.aliases unlisted nodup
      fun word _ => List.not_mem_nil (a := word)
    simp [run_register, notBlank, Table.contains, free.name, free.nameNoAlias, noClash]

theorem Sound.get?_eq_none_iff (sound : registry.Sound) : registry.get? word = none ↔
    ∀ other ∈ registry.all, word ∉ other.names := by
  rw [Option.eq_none_iff_forall_ne_some]
  constructor
  · intro unresolved other registered isName
    exact unresolved other (sound.get?_eq_some_iff.mpr ⟨registered, isName⟩)
  · intro unnamed other found
    obtain ⟨registered, isName⟩ := sound.get?_eq_some_iff.mp found
    exact unnamed other registered isName

/-- A word that names nothing is neither a name nor an alias. -/
theorem Sound.get?_eq_none_iff_tables (sound : registry.Sound) : registry.get? word = none ↔
    registry.commands.get? word = none ∧ registry.aliases.get? word = none := by
  unfold get?
  cases unnamed : registry.commands.get? word with
  | some command => simp
  | none =>
    cases held : registry.aliases.get? word with
    | none => simp
    | some owner =>
      obtain ⟨command, found, -⟩ := sound.owned.mp held
      simp [found]

/-- The names of a command are free if they are apart from each other and from all names of registered
commands. -/
theorem Sound.free_iff (sound : registry.Sound) : registry.Free command ↔
    command.names.Nodup ∧
      ∀ word ∈ command.names, ∀ other ∈ registry.all, word ∉ other.names := by
  have free : ∀ word, (∀ other ∈ registry.all, word ∉ other.names) ↔
      registry.commands.get? word = none ∧ registry.aliases.get? word = none := fun word =>
    sound.get?_eq_none_iff.symm.trans sound.get?_eq_none_iff_tables
  constructor
  · rintro ⟨name, nameNoAlias, aliases, nodup⟩
    refine ⟨nodup, fun word isName => (free word).mpr ?_⟩
    rcases List.mem_cons.mp isName with rfl | listed
    · exact ⟨name, nameNoAlias⟩
    · exact aliases word listed
  · rintro ⟨nodup, apart⟩
    have tables : ∀ word ∈ command.names,
        registry.commands.get? word = none ∧ registry.aliases.get? word = none :=
      fun word isName => (free word).mp (apart word isName)
    obtain ⟨name, nameNoAlias⟩ := tables _ List.mem_cons_self
    exact ⟨name, nameNoAlias, fun word listed => tables word (List.mem_cons_of_mem _ listed), nodup⟩

/-! ### Unregistering -/

/-- Unregistering gives back the command that was added last and the registry before it. -/
theorem unregister_add (free : registry.Free command) :
    (registry.add command).unregister command.name = (some command, registry) := by
  have found : (registry.add command).commands.get? command.name = some command := by
    rw [get?_commands_add, if_pos rfl]
  unfold unregister
  rw [found]
  refine Prod.ext rfl (ext_get? (fun name => ?_) fun word => ?_)
  · rw [Table.get?_erase, get?_commands_add]
    by_cases same : name = command.name
    · simp [same, free.name]
    · simp [same]
  · rw [get?_foldl_erase, get?_aliases_add]
    by_cases listed : word ∈ command.aliases
    · simp [listed, (free.aliases word listed).2]
    · simp [listed]

theorem unregister_of_unnamed (unnamed : registry.commands.get? word = none) :
    registry.unregister word = (none, registry) := by
  rw [unregister, unnamed]

theorem Sound.get?_commands_eq_none (sound : registry.Sound)
    (unnamed : ∀ command ∈ registry.all, command.name ≠ word) :
    registry.commands.get? word = none := by
  refine Option.eq_none_iff_forall_ne_some.mpr fun command found => ?_
  have sameName := sound.named found
  exact unnamed command (sound.mem_all_iff.mpr (by rwa [sameName])) sameName

/-! ### Registering in another order -/

/-- What lets commands be registered together, in whatever order. -/
structure Compatible (registry : Registry ε) (commands : List (Command ε)) : Prop where
  /-- Each could be registered alone. -/
  alone : ∀ command ∈ commands,
    Text.allBlank command.name = false ∧ registry.Free command
  /-- No two of them share a name. -/
  apart : commands.Pairwise fun command other => command.names.Disjoint other.names

/-- What is free beside an added command was free before, and is none of its names. -/
theorem free_add_iff : (registry.add command).Free other ↔
    registry.Free other ∧ command.names.Disjoint other.names := by
  constructor
  · rintro ⟨name, nameNoAlias, aliases, nodup⟩
    simp only [get?_commands_add, get?_aliases_add] at name nameNoAlias aliases
    have notAdded : ∀ word ∈ other.names, word ∉ command.names := by
      intro word isName isAdded
      rcases List.mem_cons.mp isName with rfl | listed <;>
        rcases List.mem_cons.mp isAdded with same | isAlias <;> grind
    refine ⟨⟨?_, ?_, fun word listed => ?_, nodup⟩, fun word isAdded isName =>
      notAdded word isName isAdded⟩ <;> grind
  · rintro ⟨⟨name, nameNoAlias, aliases, nodup⟩, apart⟩
    have notAdded : ∀ word ∈ other.names, word ≠ command.name ∧ word ∉ command.aliases := by
      intro word isName
      have unnamed : word ∉ command.names := fun isAdded => apart isAdded isName
      exact List.ne_and_not_mem_of_not_mem_cons unnamed
    have nameNotAdded := notAdded _ List.mem_cons_self
    constructor
    · rw [get?_commands_add, if_neg nameNotAdded.1]
      exact name
    · rw [get?_aliases_add, if_neg nameNotAdded.2]
      exact nameNoAlias
    · intro word listed
      have wordNotAdded := notAdded word (List.mem_cons_of_mem _ listed)
      rw [get?_commands_add, get?_aliases_add, if_neg wordNotAdded.1, if_neg wordNotAdded.2]
      exact aliases word listed
    · exact nodup

theorem add_comm (apart : command.names.Disjoint other.names) :
    (registry.add command).add other = (registry.add other).add command := by
  have differs : other.name ≠ command.name := fun same =>
    apart (a := command.name) List.mem_cons_self (same ▸ List.mem_cons_self)
  refine ext_get? (fun name => ?_) fun word => ?_
  · simp only [get?_commands_add]
    by_cases isOther : name = other.name
    · simp [isOther, differs]
    · simp [isOther]
  · simp only [get?_aliases_add]
    by_cases listed : word ∈ command.aliases
    · have unlisted : word ∉ other.aliases := fun isOther =>
        apart (List.mem_cons_of_mem _ listed) (List.mem_cons_of_mem _ isOther)
      simp [listed, unlisted]
    · simp [listed]

/-- Commands can be registered one after another exactly if they are compatible. -/
theorem registerAll_eq_iff : registry.registerAll commands = ([], larger) ↔
    registry.Compatible commands ∧ larger = commands.foldl add registry := by
  induction commands generalizing registry with
  | nil =>
    have compatible : registry.Compatible [] := ⟨by simp, .nil⟩
    simp [registerAll, compatible, eq_comm]
  | cons first rest inductionHypothesis =>
    have step : registry.Compatible (first :: rest) ↔
        (Text.allBlank first.name = false ∧ registry.Free first) ∧
          (registry.add first).Compatible rest := by
      constructor
      · rintro ⟨alone, apart⟩
        obtain ⟨firstAlone, restAlone⟩ := List.forall_mem_cons.mp alone
        obtain ⟨fromFirst, restApart⟩ := List.pairwise_cons.mp apart
        exact ⟨firstAlone, fun other later => ⟨(restAlone other later).1,
          free_add_iff.mpr ⟨(restAlone other later).2, fromFirst other later⟩⟩, restApart⟩
      · rintro ⟨firstAlone, alone, apart⟩
        have beside : ∀ other ∈ rest, registry.Free other ∧ first.names.Disjoint other.names :=
          fun other later => free_add_iff.mp (alone other later).2
        exact ⟨List.forall_mem_cons.mpr ⟨firstAlone, fun other later =>
          ⟨(alone other later).1, (beside other later).1⟩⟩,
          List.pairwise_cons.mpr ⟨fun other later => (beside other later).2, apart⟩⟩
    rw [step, List.foldl_cons, registerAll]
    cases registered : (register first).run registry with
    | ok _ next =>
      obtain ⟨notBlank, free, rfl⟩ := register_eq_ok_iff.mp registered
      simp [inductionHypothesis, notBlank, free]
    | error error next =>
      have refused : ¬(Text.allBlank first.name = false ∧ registry.Free first) := by
        rintro ⟨notBlank, free⟩
        cases registered.symm.trans (register_eq_ok_iff.mpr ⟨notBlank, free, rfl⟩)
      simp [refused]

theorem Compatible.perm (compatible : registry.Compatible commands)
    (reordered : commands.Perm others) : registry.Compatible others where
  alone := fun command member => compatible.alone command (reordered.mem_iff.mpr member)
  apart := (reordered.pairwise_iff List.disjoint_symm).mp compatible.apart

theorem Compatible.foldl_add_perm (compatible : registry.Compatible commands)
    (reordered : commands.Perm others) : commands.foldl add registry = others.foldl add registry := by
  have symmetric : Std.Symm fun command other : Command ε => command.names.Disjoint other.names :=
    ⟨fun _ _ => List.disjoint_symm⟩
  refine reordered.foldl_eq' (fun command member other otherMember middle => ?_) registry
  by_cases same : command = other
  · rw [same]
  · exact add_comm (compatible.apart.forall member otherMember same)

/-- Registration accepts exactly the clash-free commands and leaves the registry as it was otherwise.
Unregistering the name of a command that has just been registered gives it back with the registry
before, and unregistering anything but the name of a command changes nothing. Commands that can be
registered one after another can be registered in any order, and lead to the same registry. -/
theorem Reachable.registration_is_exact (reachable : registry.Reachable) :
    (∀ command, (∃ larger, (register command).run registry = .ok () larger) ↔
      Text.allBlank command.name = false ∧ command.names.Nodup ∧
        ∀ word ∈ command.names, ∀ other ∈ registry.all, word ∉ other.names) ∧
    (∀ command error reached, (register command).run registry = .error error reached →
      reached = registry) ∧
    (∀ command larger, (register command).run registry = .ok () larger →
      larger.unregister command.name = (some command, registry)) ∧
    (∀ word, (∀ command ∈ registry.all, command.name ≠ word) →
      registry.unregister word = (none, registry)) ∧
    (∀ command ∈ registry.all, ∀ word ∈ command.aliases,
      registry.unregister word = (none, registry)) ∧
    ∀ commands larger, registry.registerAll commands = ([], larger) →
      ∀ others, commands.Perm others → registry.registerAll others = ([], larger) := by
  have sound := reachable.sound
  refine ⟨fun command => ?_, fun command error reached => eq_of_register_eq_error,
    fun command larger registered => ?_, fun word unnamed => ?_,
    fun command registered word listed => ?_, fun commands larger registered others reordered => ?_⟩
  · rw [← sound.free_iff]
    simp [register_eq_ok_iff]
  · obtain ⟨-, free, rfl⟩ := register_eq_ok_iff.mp registered
    exact unregister_add free
  · exact unregister_of_unnamed (sound.get?_commands_eq_none unnamed)
  · have held := sound.owned.mpr ⟨command, sound.mem_all_iff.mp registered, listed⟩
    exact unregister_of_unnamed (sound.apart held)
  · obtain ⟨compatible, rfl⟩ := registerAll_eq_iff.mp registered
    exact registerAll_eq_iff.mpr ⟨compatible.perm reordered, compatible.foldl_add_perm reordered⟩

/-- A command with an alias that is free again where `toggle` has been removed. -/
def fold : Command Action := { name := "fold", aliases := ["za"], executor := .toggle }

/-- A command with the name that `toggle` had. -/
def flip : Command Action := { name := "toggle", aliases := ["flip"], executor := .toggle }

theorem registration_is_exact_patched :
    patched.Reachable ∧ (∃ larger, (register fold).run patched = .ok () larger) ∧
      (∃ error reached, (register chop).run patched = .error error reached ∧ reached = patched) ∧
      (patched.add fold).unregister "fold" = (some fold, patched) ∧
      patched.unregister "dd" = (none, patched) ∧
      patched.registerAll [flip, fold] = patched.registerAll [fold, flip] := by
  have reachable : patched.Reachable := ⟨_, rfl⟩
  obtain ⟨accepts, keeps, undone, -, aliasesStay, anyOrder⟩ := reachable.registration_is_exact
  have accepted : (register fold).run patched = .ok () (patched.add fold) := rfl
  have refused : (register chop).run patched = .error (.duplicateName "chop") patched := rfl
  have both : patched.registerAll [fold, flip] = ([], (patched.add fold).add flip) := rfl
  have chopRegistered : chop ∈ patched.all :=
    reachable.sound.mem_all_iff.mpr rfl
  refine ⟨reachable, (accepts fold).mpr ⟨by decide, by decide, by decide⟩,
    ⟨_, _, refused, keeps chop _ _ refused⟩, undone fold _ accepted,
    aliasesStay chop chopRegistered "dd" (by decide), ?_⟩
  exact (anyOrder _ _ both _ (.swap _ _ _)).trans both.symm

end Registry

end MindMap
