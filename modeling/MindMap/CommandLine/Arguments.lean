import MindMap.CommandLine.Value
import MindMap.Table
import MindMap.Text.Blank

/-!
# Arguments

The words after a command's name. A word that begins with two hyphens is a flag: it takes the next word
as its value unless that is a flag too, and is true by itself otherwise. Every other word is positional
and is kept under its ordinal, written in decimal.

Besides its value an argument keeps the word it was read from. `42`, `007` and `1.50` are numbers, and
as node ids they must keep their spelling.
-/

namespace MindMap.CommandLine

/-- Arguments by key. -/
structure Arguments where
  values : Table Value
  /-- The words that values were read from, less the quotes around them. -/
  sources : Table String

instance : Inhabited Arguments := ⟨⟨.empty, .empty⟩⟩

/-- The key of a positional argument. -/
def positionalKey (index : Nat) : String := toString index

namespace Arguments

/-- No arguments. -/
def empty : Arguments := ⟨.empty, .empty⟩

/-- The value under a key. -/
def get? (args : Arguments) (key : String) : Option Value := args.values.get? key

/-- The word that the value under a key was read from. -/
def source? (args : Arguments) (key : String) : Option String := args.sources.get? key

/-- Whether a key has a value. -/
def contains (args : Arguments) (key : String) : Bool := args.values.contains key

/-- The number of arguments. -/
def size (args : Arguments) : Nat := args.values.size

/-- Put a value under a key. It was read from no word. -/
def insert (args : Arguments) (key : String) (value : Value) : Arguments :=
  ⟨args.values.insert key value, args.sources.erase key⟩

/-- Put under a key the value that a word reads as, and remember the word. -/
def insertWord (args : Arguments) (key word : String) : Arguments :=
  ⟨args.values.insert key (.ofWord word), args.sources.insert key (stripQuotes word)⟩

/-- Arguments with the given values, a later one replacing an earlier one under the same key. -/
def ofList (pairs : List (String × Value)) : Arguments :=
  pairs.foldl (fun args (key, value) => args.insert key value) empty

/-- The text under a key. -/
def text? (args : Arguments) (key : String) : Option String := (args.get? key).bind Value.text?

/-- The integer under a key. -/
def integer? (args : Arguments) (key : String) : Option Int := (args.get? key).bind Value.integer?

/-- The number under a key. -/
def number? (args : Arguments) (key : String) : Option Float := (args.get? key).bind Value.number?

/-- The truth value under a key. -/
def truth? (args : Arguments) (key : String) : Option Bool := (args.get? key).bind Value.truth?

/-- What the argument under a key spells, if it may name a node: a text itself, and a number the word it
was read from. -/
def spelled? (args : Arguments) (key : String) : Option String :=
  match args.get? key with
  | some (.text content) | some (.nodeId content) => some content
  | some (.integer _) | some (.number _) => args.source? key
  | some (.truth _) | none => none

/-- The node id under a key. A blank text names no node. -/
def nodeId? (args : Arguments) (key : String) : Option String :=
  (args.spelled? key).filter fun id => !Text.allBlank id

/-- The positional argument of an index. -/
def positional? (args : Arguments) (index : Nat) : Option Value := args.get? (positionalKey index)

/-- The positional arguments from an index up to the first that is absent, at most `fuel` of them. -/
def positionalsFrom (args : Arguments) : Nat → Nat → List Value
  | 0, _ => []
  | fuel + 1, index =>
    match args.positional? index with
    | none => []
    | some value => value :: args.positionalsFrom fuel (index + 1)

/-- The positional arguments in order. -/
def positionals (args : Arguments) : List Value := args.positionalsFrom args.size 0

/-- The name of a flag, if the word is one. -/
def flag? (word : String) : Option String :=
  match word.toList with
  | '-' :: '-' :: name => some (.ofList name)
  | _ => none

/-- Read words into arguments that already hold `index` positional ones. -/
def readWords : List String → Nat → Arguments → Arguments
  | [], _, args => args
  | [word], index, args =>
    match flag? word with
    | some name => args.insert name (.truth true)
    | none => args.insertWord (positionalKey index) word
  | word :: next :: rest, index, args =>
    match flag? word with
    | some name =>
      if (flag? next).isSome then readWords (next :: rest) index (args.insert name (.truth true))
      else readWords rest index (args.insertWord name next)
    | none => readWords (next :: rest) (index + 1) (args.insertWord (positionalKey index) word)

/-- The arguments that words give. -/
def ofWords (words : List String) : Arguments := readWords words 0 empty

end Arguments

end MindMap.CommandLine
