import MindMap.Command.Registry
import MindMap.Text.LowerCase

/-!
# Finding commands

Two ways to find a command by part of its name. A search ranks all commands against a query: every field
that matches adds to the score, a better match adds more, and commands of equal score stay in order of
name. A completion extends the beginning of a name or an alias as far as all that begin so agree.
-/

namespace MindMap

/-- Whether one text occurs in another. -/
def occursIn (query : List Char) : List Char → Bool
  | [] => query.isEmpty
  | c :: rest => query.isPrefixOf (c :: rest) || occursIn query rest

/-- What a match is worth by how good it is. -/
structure MatchWorth where
  whole : Nat
  atStart : Nat
  within : Nat

namespace MatchWorth

/-- What a name is worth. -/
def forName : MatchWorth := ⟨100, 80, 60⟩

/-- What an alias is worth. -/
def forAlias : MatchWorth := ⟨90, 70, 50⟩

/-- What a description is worth that a query occurs in. -/
def description : Nat := 30

/-- What a category is worth that a query occurs in. -/
def category : Nat := 20

/-- What a text is worth against a query in lower case. -/
def score (worth : MatchWorth) (text query : String) : Nat :=
  let lower := Text.toLower text
  if lower = query then worth.whole
  else if query.toList.isPrefixOf lower.toList then worth.atStart
  else if occursIn query.toList lower.toList then worth.within
  else 0

end MatchWorth

/-- The score of a command against a query in lower case: name, best alias, description and category. -/
def Command.score {ε : Type} (command : Command ε) (query : String) : Nat :=
  MatchWorth.forName.score command.name query
    + (command.aliases.map fun otherName => MatchWorth.forAlias.score otherName query).foldl max 0
    + (if occursIn query.toList (Text.toLower command.description).toList then
        MatchWorth.description else 0)
    + (if occursIn query.toList (Text.toLower command.categoryName).toList then
        MatchWorth.category else 0)

namespace Registry

variable {ε : Type}

/-- The commands that match a query, with their scores, best first. A blank query finds every command. -/
def searchScored (registry : Registry ε) (query : String) : List (Command ε × Nat) :=
  let query := Text.toLower (Text.trim query)
  if query.isEmpty then registry.all.map (·, 0)
  else
    ((registry.all.map fun command => (command, command.score query)).filter (·.2 > 0)).mergeSort
      fun left right => right.2 ≤ left.2

/-- The commands that match a query, best first. -/
def search (registry : Registry ε) (query : String) : List (Command ε) :=
  (registry.searchScored query).map (·.1)

/-- What two texts begin with in common. -/
def commonStart : List Char → List Char → List Char
  | c :: left, d :: right => if c = d then c :: commonStart left right else []
  | _, _ => []

/-- What all of some texts begin with in common. -/
def commonStartOf : List (List Char) → Option (List Char)
  | [] => none
  | first :: rest => some (rest.foldl commonStart first)

/-- The names and aliases that begin with a text, each once. -/
def candidates (registry : Registry ε) (start : String) : List String :=
  ((registry.commands.keys ++ registry.aliases.keys).filter fun name =>
    start.toList.isPrefixOf name.toList).eraseDups

/-- Complete the first word of a line that holds nothing else yet: as far as all candidates agree, with a
space after it if there is only one. There is no completion that adds nothing. -/
def complete? (registry : Registry ε) (line : String) : Option String :=
  let word := Text.trimStart line
  if word.isEmpty || word.toList.any Text.isBlank then none
  else
    let found := registry.candidates word
    match commonStartOf (found.map String.toList) with
    | none => none
    | some common =>
      let completed := String.ofList common
      if completed = word then none
      else if found.length = 1 then some (completed ++ " ")
      else some completed

end Registry

end MindMap
