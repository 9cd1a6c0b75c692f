import MindMap.Command.Registry

/-!
# Stock commands

The commands that come with the library, with their names, parameters and help.
-/

namespace MindMap

namespace Stock

/-- The parameter that names the node a command is about. -/
def nodeId (description : String) : Parameter :=
  { name := "nodeId", type := .nodeId, description }

/-- The parameter that decides whether a new node is edited at once. -/
def editNew : Parameter :=
  { name := "edit", type := .truth, default := some (.truth true),
    description := "Start editing the new node" }

/-- The parameter that gives a new node its text. -/
def initialText : Parameter :=
  { name := "text", type := .text, description := "Initial text" }

/-- The command that moves in a direction. -/
def motion (direction : Direction) (otherName description : String) : Command Action :=
  { name := direction.name
    aliases := [otherName]
    description
    category := some "navigation"
    parameters :=
      [{ name := "count", type := .number, default := some (.integer 1),
         description := "Number of steps" }]
    examples := [direction.name ++ " --count 3", otherName ++ " 3"]
    executor := .go direction }

/-- Commands that move the selection or the view. -/
def navigation : List (Command Action) :=
  [motion .left "h" "Select the parent node",
   motion .right "l" "Select the closest child, expanding if collapsed",
   motion .up "k" "Select the previous sibling",
   motion .down "j" "Select the next sibling",
   { name := "select"
     aliases := ["sel"]
     description := "Select a node by id"
     category := some "navigation"
     parameters := [nodeId "Node to select"]
     examples := ["select node-3"]
     executor := .select },
   { name := "center"
     aliases := ["zz"]
     description := "Center the view on a node"
     category := some "view"
     parameters := [nodeId "Node to center on (defaults to the selection)"]
     executor := .center }]

/-- Commands that change the document. -/
def editing : List (Command Action) :=
  [{ name := "delete"
     aliases := ["dd", "del"]
     description := "Delete a node and its subtree"
     category := some "editing"
     parameters :=
       [nodeId "Node to delete",
        { name := "confirm", type := .truth, default := some (.truth false),
          description := "Required to delete a node with children" }]
     examples := ["delete --confirm"]
     executor := .delete },
   { name := "toggle"
     aliases := ["za"]
     description := "Collapse or expand a node"
     category := some "editing"
     parameters := [nodeId "Node to toggle"]
     executor := .toggle },
   { name := "add-child"
     aliases := ["a", "child"]
     description := "Add a child node"
     category := some "editing"
     parameters := [nodeId "Parent node", initialText, editNew]
     examples := ["add-child --text 'New idea'"]
     executor := .add .child },
   { name := "add-sibling"
     aliases := ["o", "sibling"]
     description := "Add a sibling after a node"
     category := some "editing"
     parameters := [nodeId "Node to add after", initialText, editNew]
     executor := .add .sibling },
   { name := "edit"
     aliases := ["i"]
     description := "Edit a node's text with the cursor at the start"
     category := some "editing"
     parameters := [nodeId "Node to edit"]
     executor := .edit .atStart },
   { name := "append"
     aliases := ["A"]
     description := "Edit a node's text with the cursor at the end"
     category := some "editing"
     parameters := [nodeId "Node to edit"]
     executor := .edit .atEnd },
   { name := "rename"
     aliases := ["cw"]
     description := "Replace a node's text"
     category := some "editing"
     parameters :=
       [{ name := "text", type := .text, required := true, description := "New text" },
        nodeId "Node to rename"]
     examples := ["rename --text 'Better title'"]
     executor := .rename },
   { name := "note"
     description := "Set or clear a node's note"
     category := some "editing"
     parameters :=
       [{ name := "text", type := .text, required := true,
          description := "Note text, '' clears" },
        nodeId "Node to annotate"]
     executor := .annotate },
   { name := "move"
     aliases := ["mv"]
     description := "Move a node relative to another node"
     category := some "editing"
     parameters :=
       [nodeId "Node to move",
        { name := "target", type := .nodeId, required := true, description := "Drop target" },
        { name := "position", type := .text, default := some (.text "child"),
          description := "before, after or child" }]
     examples := ["move --target node-2 --position after"]
     executor := .relocate }]

/-- Commands of the clipboard and of the history. -/
def clipboard : List (Command Action) :=
  [{ name := "copy"
     aliases := ["yy"]
     description := "Copy a node and its subtree"
     category := some "clipboard"
     parameters := [nodeId "Node to copy"]
     executor := .copy },
   { name := "paste"
     aliases := ["p"]
     description := "Paste the clipboard as a child"
     category := some "clipboard"
     parameters :=
       [{ name := "parentId", type := .nodeId,
          description := "Parent for the pasted subtree (defaults to the selection)" }]
     executor := .paste },
   { name := "undo"
     aliases := ["u"]
     description := "Undo the last change"
     category := some "history"
     executor := .undo },
   { name := "redo"
     aliases := ["U"]
     description := "Redo the last undone change"
     category := some "history"
     executor := .redo }]

/-- Commands about commands. -/
def general : List (Command Action) :=
  [{ name := "help"
     aliases := ["?"]
     description := "Show help for all commands or one command"
     examples := ["help", "help delete"]
     executor := .help },
   { name := "commands"
     aliases := ["palette"]
     description := "Search commands by name, alias or description"
     examples := ["commands node"]
     executor := .palette }]

/-- All stock commands, in the order in which they are registered. -/
def commands : List (Command Action) := navigation ++ editing ++ clipboard ++ general

end Stock

namespace Registry

/-- Register the stock commands, with an executor for each action, going on after those that clash, and
report why. -/
def registerStock {ε : Type} (executor : Action → ε) (registry : Registry ε) :
    List RegistrationError × Registry ε :=
  registry.registerAll (Stock.commands.map (Command.map executor))

/-- The registry of the stock commands alone. -/
def stock : Registry Action := (empty.registerStock id).2

end Registry

end MindMap
