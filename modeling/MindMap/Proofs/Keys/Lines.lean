import MindMap.Command.Stock
import MindMap.Proofs.Command.StockLines
import MindMap.Proofs.CommandLine.Rereading
import MindMap.Proofs.Keys.Runs

/-!
# Command lines made of keys

The lines that the usual bindings make are lines of stock commands. Wherever the stock commands are
registered, such a line is read, its name found and its arguments checked without complaint, with
one exception: `line_checked`. A count is handed on as the decimal numeral of the number typed,
which grows up to the greatest word of 64 bits, while a numeral on a line reads as an integer only
up to the greatest signed one. A count beyond that arrives as a text, and the motion refuses it.
-/

namespace MindMap

open CommandLine

/-! ### Counts -/

namespace KeySequence

/-- Digits that do not begin with a zero are typed as the number they write, up to the bound. -/
theorem after_numeral (keymap : Keymap) {first : Char} {rest : List Char}
    (areDigits : ∀ digit ∈ first :: rest, digit.isDigit = true) (notZero : first ≠ '0') :
    (start keymap).after (first :: rest) =
      ⟨keymap, some (min (Decimal.valueOf (first :: rest)) greatestCount), ""⟩ := by
  have isCount : IsCount (first :: rest) := ⟨areDigits, by simpa using notZero⟩
  obtain ⟨count, noKeys⟩ := split_of_isCount isCount
  rw [← holding_nil, (outcomes_of_isCount keymap isCount).2, holding, count, noKeys]
  rfl

/-- The count that a binding hands on. -/
def handedOn? (binding : Binding) (count : Option Nat) : Option Nat :=
  if binding.counted then count else none

theorem lineOf_of_handedOn?_eq_none {binding : Binding} {count : Option Nat}
    (noCount : handedOn? binding count = none) : lineOf binding count = binding.line := by
  unfold handedOn? at noCount
  unfold lineOf
  cases count with
  | none => rfl
  | some count => grind

theorem lineOf_of_handedOn?_eq_some {binding : Binding} {count : Option Nat} {n : Nat}
    (counted : handedOn? binding count = some n) :
    binding.counted = true ∧ lineOf binding count = binding.line ++ " --count " ++ toString n := by
  unfold handedOn? at counted
  split at counted
  · next isCounted =>
    subst counted
    exact ⟨isCounted, if_pos isCounted⟩
  · cases counted

end KeySequence

/-! ### Lines of stock commands -/

namespace Stock

/-- A line that gives a stock command, by its name, arguments that it accepts. -/
def accepts (line : String) : Bool :=
  match Invocation.ofLine line with
  | .error _ => false
  | .ok invocation => commands.any fun command =>
      command.name = invocation.name && (violations command.parameters invocation.args).isEmpty

theorem exists_of_accepts {line : String} (accepted : accepts line = true) :
    ∃ invocation, Invocation.ofLine line = .ok invocation ∧ ∃ command ∈ commands,
      command.name = invocation.name ∧
        ∃ checked, check command.parameters invocation = .ok checked := by
  unfold accepts at accepted
  split at accepted
  · cases accepted
  · next invocation read =>
    obtain ⟨command, isStock, accepted⟩ := List.any_eq_true.mp accepted
    obtain ⟨named, sound⟩ : command.name = invocation.name ∧
        violations command.parameters invocation.args = [] := by simpa using accepted
    refine ⟨invocation, read, command, isStock, named, ?_⟩
    rw [check, sound]
    exact ⟨_, rfl⟩

/-- The lines of the usual bindings are lines of stock commands, and only motions are counted. -/
theorem accepts_of_bound {keys : String} {binding : Binding}
    (bound : Keymap.standard.lookup? keys = some binding) :
    accepts binding.line = true ∧
      (binding.counted = true → ∃ direction : Direction, binding.line = direction.name) := by
  have all : ∀ entry ∈ Keymap.standard.bindings.entries, accepts entry.2.line = true ∧
      (entry.2.counted = true →
        entry.2.line ∈ [Direction.left, .right, .up, .down].map (·.name)) := by
    decide +kernel
  obtain ⟨accepted, counted⟩ := all _ (Table.get?_eq_some_iff.mp bound)
  refine ⟨accepted, fun isCounted => ?_⟩
  obtain ⟨direction, -, sameLine⟩ := List.mem_map.mp (counted isCounted)
  exact ⟨direction, sameLine.symm⟩

/-- The one parameter of a motion. -/
def countParameter : Parameter :=
  { name := "count", type := .number, default := some (.integer 1),
    description := "Number of steps" }

/-- For every direction there is a stock command. -/
theorem exists_motion (direction : Direction) : ∃ command ∈ commands,
    command.name = direction.name ∧ command.parameters = [countParameter] := by
  cases direction
  case left => exact ⟨_, .head _, rfl, rfl⟩
  case right => exact ⟨_, .tail _ (.head _), rfl, rfl⟩
  case up => exact ⟨_, .tail _ (.tail _ (.head _)), rfl, rfl⟩
  case down => exact ⟨_, .tail _ (.tail _ (.tail _ (.head _))), rfl, rfl⟩

end Stock

/-! ### Lines with a count -/

/-- A number is written without blanks, quotes or backslashes. -/
theorem isPlain_toString (n : Nat) : IsPlain (toString n) := by
  intro c member
  have digit := isDigit_of_mem_toString member
  have noQuote : ∀ other : Char, other.isDigit = false → c ≠ other := by
    rintro other noDigit rfl
    exact absurd digit (by simp [noDigit])
  simp [needsQuotes, isBlank_of_isDigit digit, isQuote, noQuote]

theorem flag?_toString (n : Nat) : Arguments.flag? (toString n) = none := by
  apply Arguments.flag?_eq_none
  rintro ⟨rest, starts⟩
  have digit : '-'.isDigit = true := isDigit_of_mem_toString (n := n) (by
    rw [← starts]
    exact .head _)
  exact absurd digit (by decide)

/-- A line that hands on a number to a direction has three words. -/
theorem words_countLine (direction : Direction) (n : Nat) :
    words (direction.name ++ " --count " ++ toString n) =
      .ok [direction.name, "--count", toString n] := by
  have space : IsGap [' '] := by decide
  have plainName : IsPlain direction.name ∧ direction.name ≠ "" := by cases direction <;> decide
  have plainFlag : IsPlain "--count" := by decide
  have notEmpty : toString n ≠ "" := by simp [← String.toList_inj, Nat.toList_repr]
  have spells := SpellsWords.cons (plainName.1.spellsWord plainName.2) space (by simp)
    (.cons (plainFlag.spellsWord (by decide)) space (by simp)
      (.last ((isPlain_toString n).spellsWord notEmpty) (show IsGap [] by decide)))
  apply words_of_spellsWords
  simpa using spells

/-- The number arrives as the value that its numeral reads as. -/
theorem ofLine_countLine (direction : Direction) (n : Nat) :
    ∃ invocation, Invocation.ofLine (direction.name ++ " --count " ++ toString n) = .ok invocation ∧
      invocation.name = direction.name ∧
      invocation.args.get? "count" =
        some (if FitsInteger n then .integer n else .text (toString n)) := by
  have isFlag : Arguments.flag? "--count" = some "count" := by decide
  have args : Arguments.ofWords ["--count", toString n] =
      Arguments.empty.insertWord "count" (toString n) := by
    simp only [Arguments.ofWords, Arguments.readWords, isFlag, flag?_toString]
    rfl
  let line := direction.name ++ " --count " ++ toString n
  refine ⟨⟨direction.name, .ofWords ["--count", toString n], line⟩, ?_, rfl, ?_⟩
  · rw [Invocation.ofLine, words_countLine]
    rfl
  · have reads : Value.ofWord (toString n) =
        if FitsInteger n then .integer n else .text (toString n) := Value.ofWord_toString n
    rw [args, ← reads]
    exact (Table.get?_insert ..).trans (if_pos rfl)

/-- What checking makes of a count that was handed on to a motion. -/
structure Command.TakesCount {ε : Type} (command : Command ε) (invocation : Invocation)
    (n : Nat) : Prop where
  accepted : (n : Int) ≤ greatestInteger → ∃ checked,
    check command.parameters invocation = .ok checked ∧
      checked.args.get? "count" = some (.integer n)
  refused : greatestInteger < n →
    check command.parameters invocation = .error [.mistyped "count" .number]

theorem Command.takesCount {ε : Type} {command : Command ε} {invocation : Invocation} {n : Nat}
    (parameters : command.parameters = [Stock.countParameter])
    (given : invocation.args.get? "count" =
      some (if FitsInteger n then .integer n else .text (toString n))) :
    command.TakesCount invocation n := by
  constructor
  case accepted =>
    intro small
    have fits : FitsInteger n := ⟨by unfold leastInteger; omega, small⟩
    rw [if_pos fits] at given
    have sound : violations [Stock.countParameter] invocation.args = [] := by
      simp [violations, Parameter.violation?, Stock.countParameter, given, ArgumentType.accept?]
    have settled : Stock.countParameter.settled? invocation.args = some (.integer n) := by
      simp [Parameter.settled?, Stock.countParameter, given, ArgumentType.accept?]
    refine ⟨{ invocation with args := invocation.args.insert "count" (.integer n) }, ?_, ?_⟩
    · rw [parameters, check, sound, List.foldl_cons, Parameter.settle, settled]
      rfl
    · exact (Table.get?_insert ..).trans (if_pos rfl)
  case refused =>
    intro great
    have noFit : ¬FitsInteger n := fun fits => absurd fits.2 (by omega)
    rw [if_neg noFit] at given
    have broken : violations [Stock.countParameter] invocation.args =
        [.mistyped "count" .number] := by
      simp [violations, Parameter.violation?, Stock.countParameter, given, ArgumentType.accept?]
    rw [parameters, check, broken]

namespace KeySequence

/-- Whatever keys are typed with the usual bindings, a line that they make is read as an invocation
of a registered command. Without a count to hand on, its arguments are accepted; with one, they are
accepted exactly if the count is an integer of 64 bits, and the count is then the number typed. -/
theorem line_checked {ε : Type} {executor : Action → ε} {registry : Registry ε}
    (stock : registry.HoldsStock executor) {keys : List Char} {key : Char} {line : String}
    (made : (((start .standard).after keys).push key).1 = .command line) :
    ∃ binding invocation command,
      Keymap.standard.lookup? (((start .standard).after keys).keys.push key) = some binding ∧
      Invocation.ofLine line = .ok invocation ∧ registry.get? invocation.name = some command ∧
      (handedOn? binding ((start .standard).after keys).count = none →
        ∃ checked, check command.parameters invocation = .ok checked) ∧
      ∀ n, handedOn? binding ((start .standard).after keys).count = some n →
        command.TakesCount invocation n := by
  obtain ⟨binding, bound, rfl⟩ := exists_binding_of_push made
  rw [keymap_after] at bound
  obtain ⟨accepted, counted⟩ := Stock.accepts_of_bound bound
  cases handedOn : handedOn? binding ((start .standard).after keys).count with
  | none =>
    rw [lineOf_of_handedOn?_eq_none handedOn]
    obtain ⟨invocation, read, command, isStock, sameName, sound⟩ := Stock.exists_of_accepts accepted
    exact ⟨binding, invocation, command.map executor, bound, read, sameName ▸ stock.get? isStock,
      fun _ => sound, fun n impossible => nomatch handedOn.symm.trans impossible⟩
  | some n =>
    obtain ⟨isCounted, lineEq⟩ := lineOf_of_handedOn?_eq_some handedOn
    obtain ⟨direction, isMotion⟩ := counted isCounted
    obtain ⟨command, isStock, sameName, parameters⟩ := Stock.exists_motion direction
    obtain ⟨invocation, read, named', given⟩ := ofLine_countLine direction n
    rw [lineEq, isMotion]
    refine ⟨binding, invocation, command.map executor, bound, read, ?_,
      fun impossible => (nomatch handedOn.symm.trans impossible), fun m same => ?_⟩
    · rw [named', ← sameName]
      exact stock.get? isStock
    · obtain rfl : n = m := Option.some.inj (handedOn.symm.trans same)
      exact Command.takesCount parameters given

theorem line_checked_of_greatest_count :
    (((start .standard).after "9223372036854775807".toList).push 'k').1 =
        .command "up --count 9223372036854775807" ∧
      ∃ invocation command checked,
        Invocation.ofLine "up --count 9223372036854775807" = .ok invocation ∧
        Registry.stock.get? invocation.name = some command ∧
        check command.parameters invocation = .ok checked ∧
        checked.args.get? "count" = some (.integer 9223372036854775807) := by
  have made : (((start .standard).after "9223372036854775807".toList).push 'k').1 =
      .command "up --count 9223372036854775807" := by decide +kernel
  have typed : (start .standard).after "9223372036854775807".toList =
      ⟨.standard, some 9223372036854775807, ""⟩ :=
    after_numeral _ (List.all_eq_true.mp (by decide)) (by decide)
  obtain ⟨binding, invocation, command, bound, read, named, -, counted⟩ :=
    line_checked Registry.holdsStock_stock made
  rw [typed] at bound counted
  have isUp : Keymap.standard.lookup? ("".push 'k') = some ⟨"up", true⟩ := by decide +kernel
  obtain rfl : ⟨"up", true⟩ = binding := Option.some.inj (isUp.symm.trans bound)
  obtain ⟨checked, accepted, count⟩ := (counted _ rfl).accepted (by decide)
  exact ⟨made, invocation, command, checked, read, named, accepted, count⟩

/-- One more than the greatest integer can be typed, and the line that hands it on is refused. -/
theorem line_refused_of_great_count :
    (((start .standard).after "9223372036854775808".toList).push 'j').1 =
        .command "down --count 9223372036854775808" ∧
      Registry.stock.named? "down --count 9223372036854775808" = some "down" ∧
      (Registry.stock.checkedArgs? "down --count 9223372036854775808").isNone = true := by
  decide +kernel

end KeySequence

end MindMap
