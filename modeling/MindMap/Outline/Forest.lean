/-!
# Outlines

A mind map is an ordered forest: roots in order, each with its children in order, and so on down. `Item`
is what a node carries apart from its children. `Forest` is given by its first root, that root's
children and the roots after it, so every function on forests is one recursion and every proof about
them one induction. `Node` is a root with its subtree.

Nothing here requires the ids of a forest to differ; where a look-up meets several nodes with one id,
it finds the first in pre-order.
-/

namespace MindMap

/-- The kind of text block that a node stands for. -/
inductive BlockKind where
  | heading
  | list
  | paragraph
  | table
  | code
  | quote
deriving DecidableEq, Repr, Inhabited

/-- The name of a kind in stored documents. -/
def BlockKind.name : BlockKind → String
  | .heading => "heading"
  | .list => "list"
  | .paragraph => "paragraph"
  | .table => "table"
  | .code => "code"
  | .quote => "quote"

/-- The kind of a name. -/
def BlockKind.ofName? : String → Option BlockKind
  | "heading" => some .heading
  | "list" => some .list
  | "paragraph" => some .paragraph
  | "table" => some .table
  | "code" => some .code
  | "quote" => some .quote
  | _ => none

/-- The text block that a node was made from. -/
structure Block where
  kind : BlockKind
  /-- The level of a heading. -/
  level : UInt8
  /-- The indentation of a list item. -/
  indent : UInt8
deriving DecidableEq, Repr, Inhabited

/-- What a node carries apart from its children. -/
structure Item where
  id : String
  text : String
  x : Float
  y : Float
  /-- Whether the children are hidden. -/
  collapsed : Bool
  block : Option Block
  note : Option String

/-- An expanded item at the origin, with neither block nor note. -/
def Item.plain (id text : String) : Item := ⟨id, text, 0, 0, false, none, none⟩

instance : Inhabited Item := ⟨.plain "" ""⟩

/-- Whether the item can be edited as a line of text; a table cannot. -/
def Item.isText (item : Item) : Bool := (item.block.map (·.kind)) ≠ some .table

/-- An ordered forest: the first root, its children, and the roots after it. -/
inductive Forest where
  | nil
  | cons (item : Item) (children rest : Forest)

instance : Inhabited Forest := ⟨.nil⟩

/-- A root with its subtree. -/
structure Node extends Item where
  children : Forest

instance : Inhabited Node := ⟨⟨default, .nil⟩⟩

/-- A node without children. -/
def Item.leaf (item : Item) : Node := ⟨item, .nil⟩

/-- The forest whose only root is the node. -/
def Node.forest (node : Node) : Forest := .cons node.toItem node.children .nil

namespace Forest

/-- The roots in order. -/
def roots : Forest → List Node
  | nil => []
  | cons item children rest => ⟨item, children⟩ :: rest.roots

/-- The forest with the given roots. -/
def ofRoots : List Node → Forest
  | [] => nil
  | node :: rest => cons node.toItem node.children (ofRoots rest)

/-- Put a root before the others. -/
def push (node : Node) (forest : Forest) : Forest := cons node.toItem node.children forest

/-- Put a root after the others. -/
def snoc : Forest → Node → Forest
  | nil, node => node.forest
  | cons item children rest, node => cons item children (rest.snoc node)

/-- The number of nodes. -/
def size : Forest → Nat
  | nil => 0
  | cons _ children rest => 1 + children.size + rest.size

/-- Whether there is no node. -/
def isEmpty : Forest → Bool
  | nil => true
  | cons .. => false

/-- All nodes in pre-order: each node, then what lies below it, then what follows it. -/
def nodes : Forest → List Node
  | nil => []
  | cons item children rest => ⟨item, children⟩ :: (children.nodes ++ rest.nodes)

/-- All ids in pre-order. -/
def ids (forest : Forest) : List String := forest.nodes.map (·.id)

/-- The nodes below no collapsed one, in pre-order. -/
def visible : Forest → List Node
  | nil => []
  | cons item children rest =>
    ⟨item, children⟩ :: ((if item.collapsed then [] else children.visible) ++ rest.visible)

/-- Visible nodes with the number of nodes above each, where the roots lie at `depth`. -/
def rowsFrom (depth : Nat) : Forest → List (Nat × Node)
  | nil => []
  | cons item children rest =>
    (depth, ⟨item, children⟩) ::
      ((if item.collapsed then [] else children.rowsFrom (depth + 1)) ++ rest.rowsFrom depth)

/-- The rows of the outline: visible nodes with their depths. -/
def rows (forest : Forest) : List (Nat × Node) := forest.rowsFrom 0

/-- The node with an id. -/
def find? (id : String) : Forest → Option Node
  | nil => none
  | cons item children rest =>
    if item.id = id then some ⟨item, children⟩ else (children.find? id).or (rest.find? id)

/-- Whether a node has the id. -/
def contains (forest : Forest) (id : String) : Bool := (forest.find? id).isSome

/-- The index of the root with an id. -/
def rootPosition? (id : String) : Forest → Option Nat
  | nil => none
  | cons item _ rest => if item.id = id then some 0 else (rest.rootPosition? id).map (· + 1)

/-- Whether a root has the id. -/
def hasRoot (forest : Forest) (id : String) : Bool := (forest.rootPosition? id).isSome

/-- The node that has the node with an id among its children. A root has no parent. -/
def parent? (id : String) : Forest → Option Node
  | nil => none
  | cons item children rest =>
    if children.hasRoot id then some ⟨item, children⟩
    else (children.parent? id).or (rest.parent? id)

/-- The siblings of a node, itself included, and its index among them. The roots are siblings. -/
def siblings? (forest : Forest) (id : String) : Option (Forest × Nat) :=
  match forest.rootPosition? id with
  | some index => some (forest, index)
  | none =>
    match forest.parent? id with
    | none => none
    | some parent => (parent.children.rootPosition? id).map (parent.children, ·)

/-- The index of the root that the node with an id lies under, or is. -/
def rootIndex? (id : String) : Forest → Option Nat
  | nil => none
  | cons item children rest =>
    if item.id = id || children.contains id then some 0 else (rest.rootIndex? id).map (· + 1)

/-- The root at an index. -/
def root? (forest : Forest) (index : Nat) : Option Node := forest.roots[index]?

@[simp] theorem roots_ofRoots (nodes : List Node) : (ofRoots nodes).roots = nodes := by
  induction nodes with
  | nil => rfl
  | cons node rest inductionHypothesis => simp [ofRoots, roots, inductionHypothesis]

@[simp] theorem ofRoots_roots (forest : Forest) : ofRoots forest.roots = forest := by
  induction forest with
  | nil => rfl
  | cons item children rest _ inductionHypothesis => simp [ofRoots, roots, inductionHypothesis]

@[simp] theorem roots_snoc (forest : Forest) (node : Node) :
    (forest.snoc node).roots = forest.roots ++ [node] := by
  induction forest with
  | nil => rfl
  | cons item children rest _ inductionHypothesis => simp [snoc, roots, inductionHypothesis]

/-- A forest has as many nodes as its pre-order lists. -/
theorem length_nodes (forest : Forest) : forest.nodes.length = forest.size := by
  induction forest with
  | nil => rfl
  | cons item children rest childrenHypothesis restHypothesis =>
    simp [nodes, size, childrenHypothesis, restHypothesis]
    omega

/-- A look-up finds the first node in pre-order. -/
theorem find?_eq_find?_nodes (forest : Forest) (id : String) :
    forest.find? id = forest.nodes.find? (·.id = id) := by
  induction forest with
  | nil => rfl
  | cons item children rest childrenHypothesis restHypothesis =>
    unfold find? nodes
    split
    · next same => simp [same]
    · next different =>
      rw [List.find?_cons_of_neg (by simpa using different), List.find?_append,
        childrenHypothesis, restHypothesis]

/-- An id is in a forest exactly if it is in the pre-order. -/
theorem contains_iff_mem_ids {forest : Forest} {id : String} :
    forest.contains id = true ↔ id ∈ forest.ids := by
  simp [contains, ids, find?_eq_find?_nodes]

end Forest

namespace Node

/-- The number of nodes in the subtree. -/
def size (node : Node) : Nat := 1 + node.children.size

/-- Whether there are children, hidden or not. -/
def hasChildren (node : Node) : Bool := !node.children.isEmpty

/-- The node with an id in the subtree. -/
def find? (node : Node) (id : String) : Option Node :=
  if node.id = id then some node else node.children.find? id

/-- Whether the node or one below it has the id. -/
def contains (node : Node) (id : String) : Bool := (node.find? id).isSome

/-- The ids of the subtree in pre-order. -/
def ids (node : Node) : List String := node.forest.ids

end Node

end MindMap
