import MindMap.Command.Parameter
import MindMap.Host

/-!
# Commands

A command is a value: its names, what help says about it, its parameters, and its executor. What executors
are is left open here: a command has one of type `ε`, and everything that only reads what is told about
commands is the same for every `ε`. The executors that come with the library are named by `Action`.
-/

namespace MindMap

/-- Where a new node goes. -/
inductive NewNodePlace where
  | child
  | sibling
deriving DecidableEq, Repr, Inhabited

/-- What a stock command does. -/
inductive Action where
  | go (direction : Direction)
  | select
  | center
  | delete
  | toggle
  | add (place : NewNodePlace)
  | edit (cursor : CursorPlacement)
  | rename
  | annotate
  | relocate
  | copy
  | paste
  | undo
  | redo
  | help
  | palette
deriving DecidableEq, Repr

/-- A named operation with its parameters. -/
structure Command (ε : Type) where
  name : String
  /-- Other names. -/
  aliases : List String := []
  /-- One line of help. -/
  description : String := ""
  /-- The heading in help, unless it is the general one. -/
  category : Option String := none
  /-- The parameters, in the order of help. -/
  parameters : List Parameter := []
  /-- Lines that show the use of the command. -/
  examples : List String := []
  /-- What the command does. -/
  executor : ε

namespace Command

variable {ε φ : Type}

/-- The heading of commands that declare none. -/
def generalCategory : String := "general"

/-- The heading of a command in help. -/
def categoryName (command : Command ε) : String := command.category.getD generalCategory

/-- The same command with another executor in place of its own. -/
def map (change : ε → φ) (command : Command ε) : Command φ :=
  { command with executor := change command.executor }

/-- The names that a command answers to. -/
def names (command : Command ε) : List String := command.name :: command.aliases

/-- The name of a command with its aliases, as the listing shows it. -/
def label (command : Command ε) : String :=
  if command.aliases.isEmpty then command.name
  else command.name ++ " (" ++ ", ".intercalate command.aliases ++ ")"

end Command

end MindMap
