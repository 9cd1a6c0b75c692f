import MindMap.Outline.Forest

/-!
# Partial updates

An update names the parts of an item that change; the others stay as they are. A note and a block can be
cleared as well as set, so for them an update holds an optional optional value.
-/

namespace MindMap

/-- New values for some parts of an item. -/
structure Update where
  text : Option String := none
  x : Option Float := none
  y : Option Float := none
  collapsed : Option Bool := none
  /-- A new note; `some none` clears it. -/
  note : Option (Option String) := none
  /-- A new block; `some none` clears it. -/
  block : Option (Option Block) := none

namespace Update

/-- Change nothing. -/
def empty : Update := {}

instance : Inhabited Update := ⟨empty⟩

/-- Change the text. -/
def setText (text : String) : Update := { text := some text }

/-- Change whether the children are hidden. -/
def setCollapsed (collapsed : Bool) : Update := { collapsed := some collapsed }

/-- Change the place. -/
def setPosition (x y : Float) : Update := { x := some x, y := some y }

/-- Set or clear the note. -/
def setNote (note : Option String) : Update := { note := some note }

/-- Whether no part changes. -/
def isEmpty (update : Update) : Bool :=
  update.text.isNone && update.x.isNone && update.y.isNone && update.collapsed.isNone &&
    update.note.isNone && update.block.isNone

/-- The item with the update made. -/
def apply (update : Update) (item : Item) : Item where
  id := item.id
  text := update.text.getD item.text
  x := update.x.getD item.x
  y := update.y.getD item.y
  collapsed := update.collapsed.getD item.collapsed
  block := update.block.getD item.block
  note := update.note.getD item.note

/-- An update never changes an id. -/
@[simp] theorem id_apply (update : Update) (item : Item) : (update.apply item).id = item.id := rfl

end Update

end MindMap
