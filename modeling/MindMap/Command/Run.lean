import MindMap.Command.Help
import MindMap.Command.Search

/-!
# Running actions

What each stock action does, as a step of any host. An action sees its arguments and a `Context`: the
registry its command was found in and the selection and mode at the start. It ends in a reply, or in a
failure of the host or of its own; a failure ends it at once.

A target is named by a flag, or else by the first positional argument, or else it is the selection. A first
positional argument that is no node id is a failure and never falls back to the selection.
-/

namespace MindMap

open CommandLine

/-- What an action knows besides its arguments. -/
structure Context (ε : Type) where
  registry : Registry ε
  selection : Option String
  mode : Mode

/-- The context of an action that starts now. -/
def Context.now {σ ε : Type} [Host σ] (registry : Registry ε) (state : σ) : Context ε :=
  ⟨registry, Host.selection state, Host.mode state⟩

/-- The id of the node that arguments name under a key. -/
def Context.resolve {ε : Type} (context : Context ε) (args : Arguments) (key : String) :
    Except Failure String :=
  match args.nodeId? key with
  | some id => .ok id
  | none =>
    if (args.positional? 0).isSome then
      match args.nodeId? (positionalKey 0) with
      | some id => .ok id
      | none => .error (.invalidArgument key "expected a node id")
    else
      match context.selection with
      | some id => .ok id
      | none => .error .noSelection

/-- What an action needs to know of the node it is about. -/
structure Target where
  id : String
  text : String
  childCount : Nat
  collapsed : Bool
  isRoot : Bool

/-- A text in double quotes. -/
def inQuotes (text : String) : String := "\"" ++ text ++ "\""

namespace Context

variable {σ ε : Type} [Host σ]

/-- The node that arguments name under a key. -/
def target (context : Context ε) (args : Arguments) (key : String) : HostM σ Target := do
  let id ← MonadExcept.ofExcept (context.resolve args key)
  let node ← Host.node id
  let document := Host.document (← get)
  return { id, text := node.text, childCount := node.children.roots.length,
           collapsed := node.collapsed, isRoot := document.hasRoot id }

/-- How often a motion is repeated. A positional count comes before a flag, and a fraction is cut
off. -/
def motionCount (args : Arguments) : Except Failure Nat := do
  let count ← match args.positional? 0 with
    | some value =>
      match value.number? with
      | some count => pure count
      | none =>
        throw (.invalidArgument "count" ("expected a number, got '" ++ value.display ++ "'"))
    | none => pure ((args.number? "count").getD 1.0)
  if !count.isFinite || count < 0 then
    throw (.invalidArgument "count" "must be a positive number")
  return max count.toUInt64.toNat 1

/-- Show the children of a collapsed node. A host that cannot toggle is asked to update the node. -/
def expand (id : String) : HostM σ Unit :=
  tryCatch (Host.toggleCollapse id) fun
    | .unsupported _ => Host.updateNode id (.setCollapsed false)
    | failure => throw failure

/-- Move the selection. -/
def go (context : Context ε) (args : Arguments) (direction : Direction) : HostM σ Reply := do
  let count ← MonadExcept.ofExcept (motionCount args)
  match context.selection with
  | none =>
    Host.navigateToDirection direction
    return .silent
  | some current =>
    let node ← Host.node current
    let state ← get
    match (Host.document state).navigate? current direction count (Host.spatial state) with
    | none => return .say ("No node " ++ direction.relation ++ " " ++ inQuotes node.text)
    | some motion =>
      motion.expand.forM expand
      Host.selectNode (some motion.target)
      return .silent

/-- Select a node. -/
def select (context : Context ε) (args : Arguments) : HostM σ Reply := do
  let target ← context.target args "nodeId"
  Host.selectNode (some target.id)
  return .say ("Selected " ++ inQuotes target.text)

/-- Bring a node to the middle of the view. -/
def center (context : Context ε) (args : Arguments) : HostM σ Reply := do
  let target ← context.target args "nodeId"
  Host.centerOnNode target.id
  return .say ("Centered on " ++ inQuotes target.text)

/-- Delete a node with all below it. A root stays, and children must be confirmed. -/
def delete (context : Context ε) (args : Arguments) : HostM σ Reply := do
  let target ← context.target args "nodeId"
  if target.isRoot then
    return .refused ("Cannot delete root node " ++ inQuotes target.text)
  if target.childCount > 0 && !(args.truth? "confirm").getD false then
    return .refused ("Node " ++ inQuotes target.text ++ " has " ++ toString target.childCount
      ++ " children; use --confirm to delete it")
  Host.deleteNode target.id
  return .say ("Deleted node " ++ inQuotes target.text)

/-- Collapse or expand a node. A host that cannot toggle is asked to update the node. -/
def toggle (context : Context ε) (args : Arguments) : HostM σ Reply := do
  let target ← context.target args "nodeId"
  if target.childCount = 0 then
    return .refused ("Node " ++ inQuotes target.text ++ " has no children to toggle")
  let collapsed := !target.collapsed
  tryCatch (Host.toggleCollapse target.id) fun
    | .unsupported _ => Host.updateNode target.id (.setCollapsed collapsed)
    | failure => throw failure
  return .say ((if collapsed then "Collapsed " else "Expanded ") ++ inQuotes target.text)

/-- Add a node beside or below another, and start editing it unless told otherwise. -/
def add (context : Context ε) (args : Arguments) (place : NewNodePlace) : HostM σ Reply := do
  let anchor ← context.target args "nodeId"
  let text := args.text? "text"
  let startEditing := (args.truth? "edit").getD true
  let created ← match place with
    | .child => Host.addChildNode anchor.id text startEditing
    | .sibling => Host.addSiblingNode anchor.id text startEditing
  match created with
  | none => return .refused ("Could not add a node next to " ++ inQuotes anchor.text)
  | some id =>
    let relation := match place with
      | .child => "child of"
      | .sibling => "sibling of"
    return .say ("Added " ++ id ++ " as " ++ relation ++ " " ++ inQuotes anchor.text)

/-- Start editing the text of a node. -/
def edit (context : Context ε) (args : Arguments) (cursor : CursorPlacement) : HostM σ Reply := do
  let target ← context.target args "nodeId"
  match cursor with
  | .atStart => Host.startEditAtStart target.id
  | .atEnd => Host.startEditAtEnd target.id
  return .silent

/-- The text that an action cannot do without. -/
def requiredText (args : Arguments) : Except Failure String :=
  match args.text? "text" with
  | some text => .ok text
  | none => .error (.invalidArgument "text" "expected a string")

/-- Replace the text of a node. -/
def rename (context : Context ε) (args : Arguments) : HostM σ Reply := do
  let text ← MonadExcept.ofExcept (requiredText args)
  let target ← context.target args "nodeId"
  Host.updateNode target.id (.setText text)
  return .say ("Renamed " ++ inQuotes target.text ++ " to " ++ inQuotes text)

/-- Replace the note of a node, or clear it if the new one is blank. -/
def annotate (context : Context ε) (args : Arguments) : HostM σ Reply := do
  let text ← MonadExcept.ofExcept (requiredText args)
  let target ← context.target args "nodeId"
  let cleared := Text.allBlank text
  Host.updateNode target.id (.setNote (if cleared then none else some text))
  return .say ((if cleared then "Cleared note on " else "Updated note on ") ++ inQuotes target.text)

/-- Move a node beside or below another. -/
def relocate (context : Context ε) (args : Arguments) : HostM σ Reply := do
  let node ← context.target args "nodeId"
  let some targetId := args.nodeId? "target"
    | throw (.invalidArgument "target" "expected a node id")
  let targetNode ← Host.node targetId
  let placement ← match Placement.ofName ((args.text? "position").getD "child") with
    | .ok placement => pure placement
    | .error error => throw (.invalidArgument "position" error.message)
  if node.id = targetId then
    return .refused ("Cannot move " ++ inQuotes node.text ++ " relative to itself")
  Host.moveNode node.id targetId placement
  let relation := match placement with
    | .before => "before"
    | .after => "after"
    | .child => "under"
  return .say ("Moved " ++ inQuotes node.text ++ " " ++ relation ++ " " ++ inQuotes targetNode.text)

/-- Copy a subtree. -/
def copy (context : Context ε) (args : Arguments) : HostM σ Reply := do
  let target ← context.target args "nodeId"
  Host.copyNode target.id
  return .say ("Copied " ++ inQuotes target.text)

/-- Paste the copied subtree below a node. -/
def paste (context : Context ε) (args : Arguments) : HostM σ Reply := do
  let parent ← context.target args "parentId"
  Host.pasteNode parent.id
  return .say ("Pasted into " ++ inQuotes parent.text)

/-- Help about one command or about all. -/
def help [TextWidth] (context : Context ε) (args : Arguments) : Reply :=
  let topic := (args.positional? 0).map Value.display
  match context.registry.help? topic with
  | some text => .say text
  | none => .refused ("Unknown command: " ++ topic.getD "")

/-- The most commands that a search shows. -/
def paletteLimit : Nat := 10

/-- A command in the result of a search. -/
def paletteLine (command : Command ε) : String :=
  if command.description.isEmpty then command.name
  else command.name ++ " - " ++ command.description

/-- Search for commands by the words given. -/
def palette (context : Context ε) (args : Arguments) : Reply :=
  let query := " ".intercalate (args.positionals.map Value.display)
  match context.registry.search query with
  | [] => .say ("No commands match " ++ inQuotes query)
  | found => .say ("\n".intercalate ((found.take paletteLimit).map paletteLine))

end Context

/-- Run an action. -/
def Action.run {σ ε : Type} [Host σ] [TextWidth] (context : Context ε) (args : Arguments) :
    Action → HostM σ Reply
  | .go direction => context.go args direction
  | .select => context.select args
  | .center => context.center args
  | .delete => context.delete args
  | .toggle => context.toggle args
  | .add place => context.add args place
  | .edit cursor => context.edit args cursor
  | .rename => context.rename args
  | .annotate => context.annotate args
  | .relocate => context.relocate args
  | .copy => context.copy args
  | .paste => context.paste args
  | .undo => do
    Host.undo
    return .say "Undone"
  | .redo => do
    Host.redo
    return .say "Redone"
  | .help => return context.help args
  | .palette => return context.palette args

end MindMap
