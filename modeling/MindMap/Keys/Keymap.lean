import MindMap.Table

/-!
# Key bindings

Sequences of keys bound to command lines. Some bindings are counted: a number typed before them is
handed on to the command.

Whether a sequence can still grow into a binding is asked after every key. In the order of keys a text
comes directly before all texts that begin with it, so looking at the one binding that comes next is
enough.
-/

namespace MindMap

/-- The command line that keys stand for. -/
structure Binding where
  line : String
  /-- Whether a number typed before the keys is handed on. -/
  counted : Bool
deriving DecidableEq, Repr, Inhabited

/-- Bindings by their keys. -/
structure Keymap where
  bindings : Table Binding

namespace Keymap

/-- No bindings. -/
def empty : Keymap := ⟨.empty⟩

/-- Bind keys, replacing what they were bound to. -/
def bind (keymap : Keymap) (keys line : String) (counted : Bool := false) : Keymap :=
  ⟨keymap.bindings.insert keys ⟨line, counted⟩⟩

/-- What keys are bound to. -/
def lookup? (keymap : Keymap) (keys : String) : Option Binding := keymap.bindings.get? keys

/-- Whether a text begins with another. -/
def beginsWith (text start : String) : Bool := start.toList.isPrefixOf text.toList

/-- Whether more keys after these can make a binding. -/
def canGrow (keymap : Keymap) (keys : String) : Bool :=
  match keymap.bindings.after? keys with
  | some (next, _) => beginsWith next keys
  | none => false

/-- The usual bindings. -/
def standard : Keymap :=
  empty
    |>.bind "h" "left" true
    |>.bind "j" "down" true
    |>.bind "k" "up" true
    |>.bind "l" "right" true
    |>.bind "dd" "delete --confirm"
    |>.bind "yy" "copy"
    |>.bind "za" "toggle"
    |>.bind "zz" "center"
    |>.bind "p" "paste"
    |>.bind "u" "undo"
    |>.bind "U" "redo"
    |>.bind "o" "add-sibling"
    |>.bind "a" "add-child"
    |>.bind "i" "edit"
    |>.bind "A" "append"
    |>.bind "?" "help"

instance : Inhabited Keymap := ⟨standard⟩

end Keymap

end MindMap
