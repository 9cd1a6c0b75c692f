import MindMap.Terminal.App

/-!
# Keys as text

Key events written down, for whoever has no keyboard at hand: a key that types no character has a name in
angle brackets, and any other text is the keys that type it.
-/

namespace MindMap

namespace KeyEvent

/-- A key pressed by itself. -/
def plain (key : Key) : KeyEvent := { key }

/-- The key event of a name. -/
def ofName? : String → Option KeyEvent
  | "<Esc>" => some (plain .escape)
  | "<Enter>" => some (plain .enter)
  | "<Tab>" => some (plain .tab)
  | "<BS>" => some (plain .backspace)
  | "<Del>" => some (plain .delete)
  | "<Left>" => some (plain .left)
  | "<Right>" => some (plain .right)
  | "<Up>" => some (plain .up)
  | "<Down>" => some (plain .down)
  | "<Home>" => some (plain .home)
  | "<End>" => some (plain .toEnd)
  | "<F1>" => some (plain .other)
  | "<C-s>" => some { key := .char 's', control := true }
  | "<C-q>" => some { key := .char 'q', control := true }
  | "<C-j>" => some { key := .char 'j', control := true }
  | "<Release-j>" => some { key := .char 'j', released := true }
  | _ => none

/-- The key events that a text stands for. -/
def ofText (text : String) : List KeyEvent :=
  match ofName? text with
  | some event => [event]
  | none => text.toList.map fun c => plain (.char c)

end KeyEvent

end MindMap
