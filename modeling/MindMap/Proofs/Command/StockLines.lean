import MindMap.Command.Stock
import MindMap.Proofs.Command.Calls

/-!
# Lines and the stock commands they name

A line names a command of a registry, by name or by an alias, and gives it arguments, which are
checked before anything runs. A line that is done has named a command and passed the check, and the
command's executor has replied. The stock commands are those that were registered, and which of them
deletes, undoes or redoes can be told by name.

Nothing is said of lines that are refused; they name no command, fail the check or fail later.
-/

namespace MindMap

open CommandLine

namespace Registry

variable {ε : Type}

/-- The name of the command that a line names, be it by an alias. -/
def named? (registry : Registry ε) (line : String) : Option String := do
  let invocation ← (Invocation.ofLine line).toOption
  let command ← registry.get? invocation.name
  return command.name

/-- The arguments that a line gives the command it names, checked. -/
def checkedArgs? (registry : Registry ε) (line : String) : Option Arguments := do
  let invocation ← (Invocation.ofLine line).toOption
  let command ← registry.get? invocation.name
  let checked ← (check command.parameters invocation).toOption
  return checked.args

section Lines

variable {σ : Type} [Host σ] [Executor ε] {registry : Registry ε} {line : String} {state : σ}

/-- A line either names no command and has no effect, or makes no other requests than the executor of
the command it names can. -/
theorem executeLine_cases (registry : Registry ε) (line : String) (state : σ) :
    (registry.named? line = none ∧ (registry.executeLine line state).1.isDone = false ∧
      (registry.executeLine line state).2 = state) ∨
    ∃ word command, registry.get? word = some command ∧
      registry.named? line = some command.name ∧
      Host.LeadsBy (Executor.MayMake command.executor) state (registry.executeLine line state).2 := by
  unfold executeLine named?
  cases Invocation.ofLine line with
  | error error => exact .inl ⟨rfl, rfl, rfl⟩
  | ok invocation =>
    dsimp only
    cases named : registry.get? invocation.name with
    | none =>
      rw [execute_unnamed named]
      refine .inl ⟨?_, rfl, rfl⟩
      simp [Except.toOption, named]
    | some command =>
      refine .inr ⟨invocation.name, command, named, ?_, execute_leadsBy named state⟩
      simp [Except.toOption, named]

/-- An invocation that is done has named a command whose executor, run on the checked arguments, has
replied. -/
theorem run_of_done_execute {invocation : Invocation}
    (done : (registry.execute invocation state).1.isDone = true) :
    ∃ command checked message, registry.get? invocation.name = some command ∧
      check command.parameters invocation = .ok checked ∧
      (Executor.run command.executor (.now registry state) checked.args).run state =
        .ok (.done message) (registry.execute invocation state).2 := by
  unfold execute at done ⊢
  split at done
  · cases done
  · next command named =>
    split at done
    · cases done
    · next checked accepted =>
      have sameRun : (registry.runCommand command checked.args).run state =
          (Executor.run command.executor (.now registry state) checked.args).run state := rfl
      rw [sameRun] at done ⊢
      split at done
      · next reply reached run =>
        cases reply with
        | refused error => cases done
        | done message => exact ⟨command, checked, message, named, accepted, run⟩
      · cases done

/-- A line that is done has been read as an invocation that is done. -/
theorem exists_ofLine_of_done (done : (registry.executeLine line state).1.isDone = true) :
    ∃ invocation, Invocation.ofLine line = .ok invocation ∧
      registry.executeLine line state = registry.execute invocation state := by
  unfold executeLine at done ⊢
  split at done
  · cases done
  · next invocation read => exact ⟨invocation, read, rfl⟩

/-- What has happened when a line is done: it has named a command and passed its check, and the
command's executor, run on the checked arguments, has replied. -/
structure Ran (registry : Registry ε) (line : String) (state : σ) (command : Command ε)
    (invocation checked : Invocation) (message : Option String) : Prop where
  read : Invocation.ofLine line = .ok invocation
  found : registry.get? invocation.name = some command
  accepted : check command.parameters invocation = .ok checked
  run : (Executor.run command.executor (.now registry state) checked.args).run state =
    .ok (.done message) (registry.executeLine line state).2

theorem ran_of_done (done : (registry.executeLine line state).1.isDone = true) :
    ∃ command invocation checked message,
      registry.Ran line state command invocation checked message := by
  obtain ⟨invocation, read, sameRun⟩ := exists_ofLine_of_done done
  rw [sameRun] at done
  obtain ⟨command, checked, message, found, accepted, run⟩ := run_of_done_execute done
  exact ⟨command, invocation, checked, message, read, found, accepted, sameRun ▸ run⟩

namespace Ran

variable {command : Command ε} {invocation checked : Invocation} {message : Option String}

theorem named (ran : registry.Ran line state command invocation checked message) :
    registry.named? line = some command.name := by
  simp [named?, ran.read, ran.found, Except.toOption]

theorem args (ran : registry.Ran line state command invocation checked message) :
    registry.checkedArgs? line = some checked.args := by
  simp [checkedArgs?, ran.read, ran.found, ran.accepted, Except.toOption]

end Ran

end Lines

/-! ### Registered commands -/

variable {registry : Registry ε}

/-- The registry with one more command, whatever it held under the names of the command. -/
def add (registry : Registry ε) (command : Command ε) : Registry ε where
  commands := registry.commands.insert command.name command
  aliases := command.aliases.foldl (fun table otherName => table.insert otherName command.name)
    registry.aliases

theorem run_insertAliases (name : String) (aliases : List String) (registry : Registry ε) :
    (aliases.forM (insertAlias name)).run registry =
      .ok () { registry with
        aliases := aliases.foldl (fun table otherName => table.insert otherName name)
          registry.aliases } := by
  induction aliases generalizing registry with
  | nil => rfl
  | cons first rest inductionHypothesis => exact inductionHypothesis _

/-- What registering comes to. A command that is refused leaves the registry as it is. -/
theorem run_register (command : Command ε) (registry : Registry ε) :
    (register command).run registry =
      if Text.allBlank command.name then .error .emptyName registry
      else if registry.commands.contains command.name then
        .error (.duplicateName command.name) registry
      else match registry.aliases.get? command.name with
        | some owner => .error (.nameTakenByAlias command.name owner) registry
        | none =>
          match registry.firstAliasClash? command.name [] command.aliases with
          | some (otherName, owner) =>
            .error (.aliasConflict otherName command.name owner) registry
          | none => .ok () (registry.add command) := by
  unfold register
  rw [EStateM.run_bind]
  dsimp only [EStateM.run_get]
  cases Text.allBlank command.name with
  | true => rfl
  | false =>
    cases registry.commands.contains command.name with
    | true => rfl
    | false =>
      cases registry.aliases.get? command.name with
      | some owner => rfl
      | none =>
        cases registry.firstAliasClash? command.name [] command.aliases with
        | some clash => rfl
        | none =>
          change ((command.aliases.forM (insertAlias command.name)) >>= fun _ => _).run registry = _
          rw [EStateM.run_bind, run_insertAliases]
          rfl

/-- A command whose name was free, and only such a command, has been added. -/
theorem register_eq_ok {larger : Registry ε} {command : Command ε}
    (registered : (register command).run registry = .ok () larger) :
    registry.commands.get? command.name = none ∧ larger = registry.add command := by
  rw [run_register] at registered
  split at registered
  · cases registered
  · split at registered
    · cases registered
    · next notTaken =>
      exact ⟨by simpa [Table.contains] using notTaken, by grind⟩

/-- A command that is refused changes nothing. -/
theorem eq_of_register_eq_error {error : RegistrationError} {reached : Registry ε}
    {command : Command ε} (refused : (register command).run registry = .error error reached) :
    reached = registry := by
  rw [run_register] at refused
  grind

/-- Registering adds no other commands than the given ones. -/
theorem commands_registerAll {commands : List (Command ε)} {name : String} {command : Command ε}
    (found : (registry.registerAll commands).2.commands.get? name = some command) :
    command ∈ commands ∨ registry.commands.get? name = some command := by
  induction commands generalizing registry with
  | nil => exact .inr found
  | cons first rest inductionHypothesis =>
    unfold registerAll at found
    split at found
    · next reached registered =>
      rcases inductionHypothesis found with later | before
      · exact .inl (List.mem_cons_of_mem _ later)
      · obtain ⟨-, rfl⟩ := register_eq_ok registered
        simp only [add, Table.get?_insert] at before
        split at before
        · cases before
          exact .inl List.mem_cons_self
        · exact .inr before
    · next error reached refused =>
      obtain rfl := eq_of_register_eq_error refused
      exact (inductionHypothesis found).imp (List.mem_cons_of_mem _) id

/-- Registering takes no command away. -/
theorem get?_registerAll_of_get? {commands : List (Command ε)} {name : String} {command : Command ε}
    (found : registry.commands.get? name = some command) :
    (registry.registerAll commands).2.commands.get? name = some command := by
  induction commands generalizing registry with
  | nil => exact found
  | cons first rest inductionHypothesis =>
    unfold registerAll
    split
    · next reached registered =>
      obtain ⟨free, rfl⟩ := register_eq_ok registered
      have different : name ≠ first.name := by
        rintro rfl
        cases found.symm.trans free
      apply inductionHypothesis
      rw [add, Table.get?_insert, if_neg different]
      exact found
    · next error reached refused =>
      obtain rfl := eq_of_register_eq_error refused
      exact inductionHypothesis found

/-- Commands of which none is refused are found under their names. -/
theorem get?_registerAll_of_mem {commands : List (Command ε)} {command : Command ε}
    (noError : (registry.registerAll commands).1 = []) (member : command ∈ commands) :
    (registry.registerAll commands).2.commands.get? command.name = some command := by
  induction commands generalizing registry with
  | nil => cases member
  | cons first rest inductionHypothesis =>
    unfold registerAll at noError ⊢
    split at noError
    · next reached registered =>
      rcases List.mem_cons.mp member with rfl | later
      · obtain ⟨-, rfl⟩ := register_eq_ok registered
        apply get?_registerAll_of_get?
        rw [add, Table.get?_insert, if_pos rfl]
      · exact inductionHypothesis noError later
    · cases noError

theorem exists_commands_get? {word : String} {command : Command ε}
    (found : registry.get? word = some command) :
    ∃ name, registry.commands.get? name = some command := by
  unfold get? at found
  split at found
  · cases found
    exact ⟨word, ‹_›⟩
  · obtain ⟨name, _, byName⟩ := Option.bind_eq_some_iff.mp found
    exact ⟨name, byName⟩

/-- What a word names in the stock registry is a stock command. -/
theorem mem_commands_of_get?_stock {word : String} {command : Command Action}
    (found : stock.get? word = some command) : command ∈ Stock.commands := by
  obtain ⟨name, byName⟩ := exists_commands_get? found
  have registered := (commands_registerAll byName).resolve_right (by simp [empty])
  obtain ⟨declared, isStock, rfl⟩ := List.mem_map.mp registered
  exact isStock

/-- The stock commands are registered under their names, perhaps among others, each with the executor
for its action. -/
def HoldsStock (executor : Action → ε) (registry : Registry ε) : Prop :=
  ∀ command ∈ Stock.commands,
    registry.commands.get? command.name = some (command.map executor)

theorem holdsStock_stock : stock.HoldsStock id := fun _ isStock =>
  get?_registerAll_of_mem (by decide) (List.mem_map_of_mem isStock)

theorem HoldsStock.get? {executor : Action → ε} (holds : registry.HoldsStock executor)
    {command : Command Action} (isStock : command ∈ Stock.commands) :
    registry.get? command.name = some (command.map executor) := by
  rw [Registry.get?, holds command isStock]

end Registry

namespace Stock

/-- The commands that can lose nodes have names of their own. -/
theorem executor_iff_name {command : Command Action} (stock : command ∈ commands) :
    (command.executor = .delete ↔ command.name = "delete") ∧
    (command.executor = .undo ↔ command.name = "undo") ∧
    (command.executor = .redo ↔ command.name = "redo") := by
  revert command
  decide

/-- Executors that do what the actions do that they are for. -/
structure Faithful {ε : Type} [TextWidth] [Executor ε] (executor : Action → ε) : Prop where
  run {σ : Type} [Host σ] (action : Action) (context : Context ε) (args : Arguments) :
    Executor.run (executor action) context args = (action.run context args : HostM σ Reply)
  mayMake {action : Action} {request : Request} :
    Executor.MayMake (executor action) request → action.MayMake request

theorem faithful_id [TextWidth] : Faithful (id : Action → Action) := ⟨fun _ _ _ => rfl, id⟩

end Stock

/-- The registry has the stock commands, perhaps among others, and each does what its action does. -/
def Registry.HasStock {ε : Type} [TextWidth] [Executor ε] (registry : Registry ε) : Prop :=
  ∃ executor : Action → ε, Stock.Faithful executor ∧ registry.HoldsStock executor

theorem Registry.hasStock_stock [TextWidth] : stock.HasStock :=
  ⟨id, Stock.faithful_id, holdsStock_stock⟩

end MindMap
