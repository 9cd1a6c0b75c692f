import MindMap.Command.Registry
import MindMap.Text.Given

/-!
# Help

Two texts: a listing of all commands under the headings of their categories, with descriptions in one
column, and a page about one command. Columns are counted in cells of a screen, and how many of them a label
takes is for `TextWidth` to say.
-/

namespace MindMap

/-- One parameter on the page of its command. -/
def Parameter.helpLine (parameter : Parameter) : String :=
  s!"  --{parameter.name} <{parameter.type.name}>"
    ++ (if parameter.required then " (required)" else "")
    ++ (match parameter.default with
      | some value => " [default: " ++ value.display ++ "]"
      | none => "")
    ++ (if parameter.description.isEmpty then "" else s!" - {parameter.description}")
    ++ "\n"

namespace Command

variable {ε : Type}

/-- The page about a command. -/
def helpPage (command : Command ε) : String :=
  command.name
    ++ (if command.description.isEmpty then "" else s!" - {command.description}")
    ++ s!"\nCategory: {command.categoryName}\n"
    ++ (if command.aliases.isEmpty then "" else "Aliases: " ++ ", ".intercalate command.aliases ++ "\n")
    ++ (if command.parameters.isEmpty then ""
        else "Arguments:\n" ++ String.join (command.parameters.map (·.helpLine)))
    ++ (if command.examples.isEmpty then ""
        else "Examples:\n" ++ String.join (command.examples.map fun line => s!"  {line}\n"))

/-- One command in the listing under its label, its description beginning in the given column. -/
def listingLine [TextWidth] (column : Nat) (label : String) (command : Command ε) : String :=
  "  " ++ label
    ++ (if command.description.isEmpty then ""
        else Text.spaces (column - TextWidth.width label) ++ command.description)
    ++ "\n"

end Command

namespace Registry

variable {ε : Type}

/-- The commands of each category, in order of name. -/
def byCategory (registry : Registry ε) : Table (List (Command ε)) :=
  registry.all.foldl
    (fun table command =>
      table.insert command.categoryName
        ((table.get? command.categoryName).getD [] ++ [command]))
    .empty

/-- The label of each command, under its name. -/
def labels (registry : Registry ε) : Table String :=
  .ofList (registry.all.map fun command => (command.name, command.label))

/-- The column where descriptions begin: two cells after the widest label. -/
def descriptionColumn [TextWidth] (labels : Table String) : Nat :=
  (labels.values.map TextWidth.width).foldl max 0 + 2

/-- One category in the listing. The label of a command is looked up by its name. -/
def categoryListing [TextWidth] (labels : Table String) (column : Nat)
    (entry : String × List (Command ε)) : String :=
  s!"\n{entry.1}:\n" ++ String.join (entry.2.map fun command =>
    command.listingLine column ((labels.get? command.name).getD ""))

/-- The listing of all commands. -/
def listing [TextWidth] (registry : Registry ε) : String :=
  let labels := registry.labels
  let column := descriptionColumn labels
  "Available commands:\n"
    ++ String.join (registry.byCategory.entries.map (categoryListing labels column))
    ++ "\nType 'help <command>' for details on a command.\n"

/-- Help about the command that a word names, or about all commands. -/
def help? [TextWidth] (registry : Registry ε) (word : Option String) : Option String :=
  match word with
  | some word => (registry.get? word).map (·.helpPage)
  | none => some registry.listing

end Registry

end MindMap
