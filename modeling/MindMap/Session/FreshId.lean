import MindMap.Outline.Forest

/-!
# Fresh ids

New nodes are named by numbers. The search for a number whose name is not taken starts at a counter that
only grows, so a name is never given out twice. Among one number more than a document has nodes there is
one whose name is free, which bounds the search.
-/

namespace MindMap

/-- The id made from a number. -/
def numberedId (number : Nat) : String := "node-" ++ toString number

namespace Forest

/-- The first number from `number` on whose id is not in the document, looking at no more than `fuel`
taken ones. -/
def freeNumberWithin (document : Forest) : Nat → Nat → Nat
  | 0, number => number
  | fuel + 1, number =>
    if document.contains (numberedId number) then document.freeNumberWithin fuel (number + 1)
    else number

/-- The first number from `number` on whose id is not in the document. -/
def freeNumber (document : Forest) (number : Nat) : Nat :=
  document.freeNumberWithin document.size number

/-- Give every node of `forest` an id that is fresh in `document`, in pre-order, from a number on. The
second result is the number to go on from. -/
def renumber (document : Forest) : Forest → Nat → Forest × Nat
  | nil, number => (nil, number)
  | cons item children rest, number =>
    let free := document.freeNumber number
    let (below, afterBelow) := document.renumber children (free + 1)
    let (others, afterAll) := document.renumber rest afterBelow
    (cons { item with id := numberedId free } below others, afterAll)

/-- Move every node of a forest by the same distance. -/
def shift (dx dy : Float) : Forest → Forest
  | nil => nil
  | cons item children rest =>
    cons { item with x := item.x + dx, y := item.y + dy } (children.shift dx dy) (rest.shift dx dy)

end Forest

namespace Node

/-- Give every node of a subtree an id that is fresh in `document`. -/
def renumber (document : Forest) (node : Node) (number : Nat) : Node × Nat :=
  let free := document.freeNumber number
  let (below, afterBelow) := document.renumber node.children (free + 1)
  ({ node with id := numberedId free, children := below }, afterBelow)

/-- Move every node of a subtree by the same distance. -/
def shift (dx dy : Float) (node : Node) : Node :=
  { node with x := node.x + dx, y := node.y + dy, children := node.children.shift dx dy }

end Node

end MindMap
