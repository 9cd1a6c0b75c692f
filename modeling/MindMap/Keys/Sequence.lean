import MindMap.Keys.Keymap

/-!
# Key sequences

Keys typed one by one until they make a binding: a number that does not begin with zero, and then the keys
of the binding. The number is handed on to a counted binding and dropped for any other. A colon before
any key of a binding asks for the command line instead. Keys that can make no binding are given back and
forgotten.
-/

namespace MindMap

/-- The key that asks for the command line. -/
def commandLineKey : Char := ':'

/-- Counts do not grow beyond this. -/
def greatestCount : Nat := UInt64.size - 1

/-- What a key led to. -/
inductive KeyOutcome where
  /-- More keys are needed. -/
  | pending
  /-- The keys make a command line. -/
  | command (line : String)
  /-- The user asks for the command line. -/
  | commandLine
  /-- The keys make nothing. -/
  | unbound (keys : String)
deriving DecidableEq, Repr

/-- Keys that have made nothing yet. -/
structure KeySequence where
  keymap : Keymap
  /-- The number typed first. -/
  count : Option Nat
  /-- The keys typed after the number. -/
  keys : String

namespace KeySequence

/-- No keys typed. -/
def start (keymap : Keymap) : KeySequence := ⟨keymap, none, ""⟩

instance : Inhabited KeySequence := ⟨start .standard⟩

/-- All that has been typed. -/
def typed (sequence : KeySequence) : String :=
  match sequence.count with
  | some count => toString count ++ sequence.keys
  | none => sequence.keys

/-- Forget what has been typed. -/
def reset (sequence : KeySequence) : KeySequence := { sequence with count := none, keys := "" }

/-- The number that a digit makes of a count. -/
def appendDigit (count : Option Nat) (digit : Nat) : Nat :=
  min (count.getD 0 * 10 + digit) greatestCount

/-- The count after a key, if the key is a digit of it: no key of a binding has been typed, and a zero
comes only after another digit. -/
def countAfter? (sequence : KeySequence) (key : Char) : Option Nat :=
  if sequence.keys.isEmpty && key.isDigit && (key ≠ '0' || sequence.count.isSome) then
    some (appendDigit sequence.count (key.toNat - '0'.toNat))
  else none

/-- The command line of a binding after a count. -/
def lineOf (binding : Binding) (count : Option Nat) : String :=
  match count with
  | some count => if binding.counted then s!"{binding.line} --count {count}" else binding.line
  | none => binding.line

/-- Type a key that is no digit of a count and does not ask for the command line. -/
def pushBound (sequence : KeySequence) (key : Char) : KeyOutcome × KeySequence :=
  let grown := { sequence with keys := sequence.keys.push key }
  match sequence.keymap.lookup? grown.keys with
  | some binding => (.command (lineOf binding sequence.count), sequence.reset)
  | none =>
    if sequence.keymap.canGrow grown.keys then (.pending, grown)
    else (.unbound grown.typed, sequence.reset)

/-- Type a key. -/
def push (sequence : KeySequence) (key : Char) : KeyOutcome × KeySequence :=
  match sequence.countAfter? key with
  | some count => (.pending, { sequence with count := some count })
  | none =>
    if sequence.keys.isEmpty && key = commandLineKey then (.commandLine, sequence.reset)
    else sequence.pushBound key

end KeySequence

end MindMap
