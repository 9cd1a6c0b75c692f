import MindMap.Command.Basic

/-!
# Registries

A registry holds commands under distinct names and aliases. A command is registered as a whole or not at
all: with a blank name, or with a name or an alias that is taken, it is refused. A word resolves to the
command of that name, or else to the owner of that alias.
-/

namespace MindMap

/-- Why a command is not registered. -/
inductive RegistrationError where
  | emptyName
  | duplicateName (name : String)
  /-- The name is an alias of the command `owner`. -/
  | nameTakenByAlias (name owner : String)
  /-- The other name of `command` is a name, or an alias, of the command `owner`. -/
  | aliasConflict (otherName command owner : String)
deriving DecidableEq, Repr

/-- What the error tells the user. -/
def RegistrationError.message : RegistrationError → String
  | .emptyName => "Command name must not be empty"
  | .duplicateName name => s!"Command '{name}' is already registered"
  | .nameTakenByAlias name owner => s!"Command name '{name}' is already an alias of '{owner}'"
  | .aliasConflict otherName command owner =>
    s!"Alias '{otherName}' of '{command}' conflicts with '{owner}'"

/-- Commands by name, and the names that aliases stand for. -/
structure Registry (ε : Type) where
  commands : Table (Command ε)
  aliases : Table String

/-- A step on a registry that may fail. It is left as the step leaves it, failed or not. -/
abbrev Registration (ε α : Type) := EStateM RegistrationError (Registry ε) α

namespace Registry

variable {ε : Type}

/-- No commands. -/
def empty : Registry ε := ⟨.empty, .empty⟩

instance : Inhabited (Registry ε) := ⟨empty⟩

/-- The number of commands. -/
def size (registry : Registry ε) : Nat := registry.commands.size

/-- The commands in order of name. -/
def all (registry : Registry ε) : List (Command ε) := registry.commands.values

/-- The command that a word names. -/
def get? (registry : Registry ε) (word : String) : Option (Command ε) :=
  match registry.commands.get? word with
  | some command => some command
  | none => (registry.aliases.get? word).bind registry.commands.get?

/-- Whether a word names a command. -/
def contains (registry : Registry ε) (word : String) : Bool := (registry.get? word).isSome

/-- The command that an alias `otherName` of a new command `name` would clash with: one of that name, the
owner of the alias, or the new command itself, which has the alias as its name or among those
`before`. -/
def aliasOwner? (registry : Registry ε) (name : String) (before : List String)
    (otherName : String) : Option String :=
  if registry.commands.contains otherName then some otherName
  else match registry.aliases.get? otherName with
    | some owner => some owner
    | none => if otherName = name || before.contains otherName then some name else none

/-- The first alias of a new command `name` that clashes, with the command it clashes with. -/
def firstAliasClash? (registry : Registry ε) (name : String) (before : List String) :
    List String → Option (String × String)
  | [] => none
  | otherName :: rest =>
    match registry.aliasOwner? name before otherName with
    | some owner => some (otherName, owner)
    | none => registry.firstAliasClash? name (otherName :: before) rest

/-- Register a command under its name. -/
def insertCommand (command : Command ε) : Registration ε Unit :=
  modify fun registry =>
    { registry with commands := registry.commands.insert command.name command }

/-- Let an alias stand for a name. -/
def insertAlias (name otherName : String) : Registration ε Unit :=
  modify fun registry => { registry with aliases := registry.aliases.insert otherName name }

/-- Register a command. All is looked at before anything is changed. -/
def register (command : Command ε) : Registration ε Unit := do
  let registry ← get
  if Text.allBlank command.name then throw .emptyName
  if registry.commands.contains command.name then throw (.duplicateName command.name)
  if let some owner := registry.aliases.get? command.name then
    throw (.nameTakenByAlias command.name owner)
  if let some (otherName, owner) := registry.firstAliasClash? command.name [] command.aliases then
    throw (.aliasConflict otherName command.name owner)
  command.aliases.forM (insertAlias command.name)
  insertCommand command

/-- Register commands one after another, going on after those that are refused, and report why. -/
def registerAll (registry : Registry ε) : List (Command ε) → List RegistrationError × Registry ε
  | [] => ([], registry)
  | command :: rest =>
    match (register command).run registry with
    | .ok _ reached => reached.registerAll rest
    | .error error reached =>
      let (errors, larger) := reached.registerAll rest
      (error :: errors, larger)

/-- Remove the command of a name, with its aliases. An alias removes nothing. -/
def unregister (registry : Registry ε) (name : String) : Option (Command ε) × Registry ε :=
  match registry.commands.get? name with
  | none => (none, registry)
  | some command =>
    (some command,
      { commands := registry.commands.erase name
        aliases := command.aliases.foldl Table.erase registry.aliases })

end Registry

end MindMap
