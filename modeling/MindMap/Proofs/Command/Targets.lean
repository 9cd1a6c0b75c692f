import MindMap.Proofs.Command.Registration
import MindMap.Proofs.Command.Sight

/-!
# Nodes named on a line

A stock command is about the node that its line names, under a key of the command or as the first word,
and about the selection only if the line names none. Such a node is taken by its spelling: what else the
word might be read as makes no difference, and neither does the selection once a node has been named, not
even where the word cannot name one: `named_target_is_resolved`.
-/

namespace MindMap

open CommandLine

variable {ε : Type}

/-! ### Words that name nodes -/

/-- A text that a line can name a node by. -/
structure NamesNode (id : String) : Prop where
  notBlank : Text.allBlank id = false
  noFlag : ¬['-', '-'] <+: id.toList
  notTrue : id ≠ "true"
  notFalse : id ≠ "false"
  bare : ¬IsWrapped id

theorem NamesNode.flag?_eq_none {id : String} (names : NamesNode id) :
    Arguments.flag? id = none :=
  Arguments.flag?_eq_none names.noFlag

/-- Whatever else such a text reads as, it is a node id by its spelling. -/
theorem NamesNode.accept? {id : String} (names : NamesNode id) :
    ArgumentType.nodeId.accept? (.ofWord id) (some (stripQuotes id)) = some (.nodeId id) := by
  have noTruth := Value.ofWord_ne_truth names.notTrue names.notFalse
  have read := Value.readFrom_ofWord id
  rw [stripQuotes_of_not_isWrapped names.bare] at read ⊢
  generalize Value.ofWord id = value at noTruth read
  cases read with
  | truth => exact absurd rfl (noTruth _)
  | text => simp [ArgumentType.accept?, names.notBlank]
  | integer => rfl
  | number => rfl

/-- The same goes for an argument that no parameter declares. -/
theorem NamesNode.nodeId? {id key : String} (names : NamesNode id) {args : Arguments}
    (held : args.Holds key id) : args.nodeId? key = some id := by
  have noTruth := Value.ofWord_ne_truth names.notTrue names.notFalse
  have read := Value.readFrom_ofWord id
  obtain ⟨value, source⟩ := held
  rw [stripQuotes_of_not_isWrapped names.bare] at read source
  have spelled : args.spelled? key = some id := by
    unfold Arguments.spelled?
    rw [value, source]
    generalize Value.ofWord id = value at noTruth read
    cases read with
    | truth => exact absurd rfl (noTruth _)
    | text => rfl
    | integer => rfl
    | number => rfl
  simp [Arguments.nodeId?, spelled, names.notBlank]

/-! ### Targets of stock commands -/

/-- The command is about the node under the key, which may be left out. -/
def Command.TakesTarget (command : Command ε) (key : String) : Prop :=
  ∃ parameter ∈ command.parameters,
    parameter.name = key ∧ parameter.type = .nodeId ∧ parameter.required = false

namespace Stock

theorem distinct_parameters {command : Command Action} (stock : command ∈ commands) :
    (command.parameters.map (·.name)).Nodup := by
  revert command
  decide

/-- First words are never declared, so a check passes them on. -/
theorem no_parameter_zero {command : Command Action} (stock : command ∈ commands) :
    ∀ parameter ∈ command.parameters, parameter.name ≠ positionalKey 0 := by
  revert command
  decide

theorem target_keys {command : Command Action} (stock : command ∈ commands) :
    ∀ parameter ∈ command.parameters, parameter.type = .nodeId → parameter.required = false →
      parameter.name ∈ ["nodeId", "parentId"] := by
  revert command
  decide

/-- A target is never taken for the word at some position. -/
theorem target_ne_positionalKey {command : Command Action} {key : String} (stock : command ∈ commands)
    (takes : command.TakesTarget key) (place : Nat) : key ≠ positionalKey place := by
  obtain ⟨parameter, declared, rfl, isNode, optional⟩ := takes
  have letter : 'I' ∈ parameter.name.toList := by
    have isTarget := target_keys stock parameter declared isNode optional
    simp only [List.mem_cons, List.not_mem_nil, or_false] at isTarget
    rcases isTarget with is | is <;> rw [is] <;> decide
  intro same
  rw [same] at letter
  exact absurd (isDigit_of_mem_toString letter) (by decide)

/-- A target that is not given is not missed, and one that is given is accepted. -/
theorem violation?_target {command : Command Action} {key : String} (stock : command ∈ commands)
    (takes : command.TakesTarget key) {args : Arguments} {id : String} (names : NamesNode id)
    (given : args.get? key = none ∨ args.Holds key id) :
    ∀ parameter ∈ command.parameters, parameter.name = key →
      parameter.violation? args = none := by
  obtain ⟨target, declared, rfl, isNode, optional⟩ := takes
  intro parameter alsoDeclared sameName
  obtain rfl : parameter = target :=
    List.inj_on_of_nodup_map (distinct_parameters stock) alsoDeclared declared sameName
  unfold Parameter.violation?
  rcases given with absent | ⟨value, source⟩
  · rw [absent, optional]
    rfl
  · rw [value, source, isNode]
    dsimp only
    rw [names.accept?]

end Stock

/-- What a check says of the target of a stock command. -/
structure CheckedTarget (given checked : Arguments) (key : String) : Prop where
  /-- A node that is given under the key has been accepted by its spelling. -/
  named : ∀ value, given.get? key = some value → ∃ id, given.source? key = some id ∧
    checked.get? key = some (.nodeId id) ∧ Text.allBlank id = false
  /-- None is made up. -/
  unnamed : given.get? key = none → checked.get? key = none
  first : checked.get? (positionalKey 0) = given.get? (positionalKey 0)
  firstSource : checked.source? (positionalKey 0) = given.source? (positionalKey 0)

theorem checkedTarget {command : Command Action} {key : String} (stock : command ∈ Stock.commands)
    (takes : command.TakesTarget key) {invocation checked : Invocation}
    (fromWords : invocation.args.FromWords)
    (accepted : check command.parameters invocation = .ok checked) :
    CheckedTarget invocation.args checked.args key := by
  obtain ⟨parameter, declared, rfl, isNode, optional⟩ := takes
  obtain ⟨unbroken, settled⟩ :=
    checkedArguments_of_check (Stock.distinct_parameters stock) accepted
  obtain ⟨first, firstSource⟩ := settled.undeclared _ (Stock.no_parameter_zero stock)
  constructor
  case named =>
    intro value found
    have admits := Parameter.admits_of_not_violated (unbroken parameter declared) found
    rw [isNode] at admits
    obtain ⟨id, source, names, notBlank⟩ :=
      ArgumentType.exists_spelling_of_admits (fromWords _ _ found) admits
    refine ⟨id, source, ?_, notBlank⟩
    rw [settled.node parameter declared isNode value found, names]
  case unnamed =>
    intro absent
    have isTarget := Stock.target_keys stock parameter declared isNode optional
    have noDefault := Stock.noDefault_target stock parameter declared
      (List.mem_append_left [positionalKey 0] isTarget)
    rw [settled.default parameter declared absent, Option.isNone_iff_eq_none.mp noDefault]
  case first => exact first
  case firstSource => exact firstSource

namespace CheckedTarget

variable {given checked : Arguments} {key : String}

/-- What is given under the key is the target in every context. -/
theorem resolve_of_named (target : CheckedTarget given checked key) {value : Value}
    (found : given.get? key = some value) :
    ∃ id, given.source? key = some id ∧ ∀ context : Context ε,
      context.resolve checked key = .ok id := by
  obtain ⟨id, source, checkedKey, notBlank⟩ := target.named value found
  refine ⟨id, source, fun context => ?_⟩
  have named : checked.nodeId? key = some id := by
    simp [Arguments.nodeId?, Arguments.spelled?, checkedKey, notBlank]
  rw [Context.resolve, named]

/-- Without it, the first word is the target or the reason why there is none. -/
theorem resolve_of_first (target : CheckedTarget given checked key)
    (absent : given.get? key = none) {value : Value}
    (first : given.get? (positionalKey 0) = some value) (context : Context ε) :
    context.resolve checked key =
      match given.nodeId? (positionalKey 0) with
      | some id => .ok id
      | none => .error (.invalidArgument key "expected a node id") := by
  have unnamed : checked.nodeId? key = none := by
    simp [Arguments.nodeId?, Arguments.spelled?, target.unnamed absent]
  have same : checked.nodeId? (positionalKey 0) = given.nodeId? (positionalKey 0) := by
    unfold Arguments.nodeId? Arguments.spelled?
    rw [target.first, target.firstSource]
  have present : (checked.positional? 0).isSome = true := by
    rw [Arguments.positional?, target.first, first]
    rfl
  rw [Context.resolve, unnamed, same]
  exact if_pos present

/-- A target that is given is the one that the line kept, and the same in every context. -/
theorem resolve_of_given (target : CheckedTarget given checked key) (fromWords : given.FromWords)
    (isGiven : (given.contains key || given.contains (positionalKey 0)) = true)
    {context : Context ε} {id : String} (resolved : context.resolve checked key = .ok id) :
    given.source? (if given.contains key then key else positionalKey 0) = some id ∧
      ∀ other : Context ε, other.resolve checked key = .ok id := by
  cases found : given.get? key with
  | some value =>
    have underKey : given.contains key = true := congrArg Option.isSome found
    obtain ⟨kept, source, always⟩ := target.resolve_of_named found
    obtain rfl : kept = id := Except.ok.inj ((always context).symm.trans resolved)
    rw [if_pos underKey]
    exact ⟨source, always⟩
  | none =>
    have notUnderKey : given.contains key = false := congrArg Option.isSome found
    rw [notUnderKey, Bool.false_or] at isGiven
    obtain ⟨value, first⟩ := Option.isSome_iff_exists.mp isGiven
    have always := fun other : Context ε => target.resolve_of_first found first other
    rw [always] at resolved
    rw [notUnderKey, if_neg Bool.false_ne_true]
    split at resolved
    · next kept named =>
      cases resolved
      have spelled := (Option.filter_eq_some_iff.mp named).1
      exact ⟨fromWords.source?_of_spelled? spelled, fun other => by rw [always, named]⟩
    · cases resolved

end CheckedTarget

/-! ### Lines with a target -/

/-- A line of a command with room for one more word, which is to name its target. -/
structure TargetLine (name key : String) where
  before : List String
  after : List String
  place : Arguments.TargetPlace key before after
  head : String
  gap : String
  tail : String
  spellsHead : SpellsLine (name :: before) head.toList
  isGap : IsGap gap.toList
  gapNotEmpty : gap ≠ ""
  tailReads : words tail = .ok after
  tailApart : StartsApart tail

namespace TargetLine

variable {name key id : String}

/-- The line with a word written by `quoteWord`. -/
def line (target : TargetLine name key) (id : String) : String :=
  target.head ++ (target.gap ++ quoteWord id ++ target.tail)

theorem words_line (target : TargetLine name key) (id : String) :
    words (target.line id) = .ok (name :: (target.before ++ id :: target.after)) := by
  have spells : SpellsLine [id] (target.gap ++ quoteWord id).toList := by
    rw [String.toList_append, ← List.append_nil (quoteWord id).toList]
    exact .words target.isGap (.last (spellsWord_quoteWord id) (by decide))
  have apart : StartsApart (target.gap ++ quoteWord id ++ target.tail) := by
    have notEmpty : target.gap.toList ≠ [] := by simpa using target.gapNotEmpty
    obtain ⟨c, rest, is⟩ := List.exists_cons_of_ne_nil notEmpty
    have blank := target.isGap c (is ▸ List.mem_cons_self)
    intro first isFirst
    simp only [String.toList_append, is, List.cons_append, List.head?_cons, Option.mem_some] at isFirst
    exact isFirst ▸ blank
  rw [line, words_append (words_of_spellsLine target.spellsHead) apart,
    words_append (words_of_spellsLine spells) target.tailApart, target.tailReads]
  simp

theorem ofLine_line (target : TargetLine name key) (id : String) :
    Invocation.ofLine (target.line id) =
      .ok ⟨name, .ofWords (target.before ++ id :: target.after), target.line id⟩ := by
  unfold Invocation.ofLine
  rw [words_line]
  rfl

/-- The check lets the target pass, and it is resolved as it was given. -/
theorem resolves_line (target : TargetLine name key) {command : Command Action}
    (stock : command ∈ Stock.commands) (takes : command.TakesTarget key) (names : NamesNode id)
    (others : ∀ parameter ∈ command.parameters, parameter.name ≠ key →
      parameter.violation? (.ofWords (target.before ++ id :: target.after)) = none) :
    ∃ checked, check command.parameters
        ⟨name, .ofWords (target.before ++ id :: target.after), target.line id⟩ = .ok checked ∧
      ∀ context : Context ε, context.resolve checked.args key = .ok id := by
  have fromWords := Invocation.fromWords_ofLine (target.ofLine_line id)
  have given := target.place.holds names.flag?_eq_none (Stock.target_ne_positionalKey stock takes)
  generalize Arguments.ofWords (target.before ++ id :: target.after) = args at *
  have unbroken : ∀ parameter ∈ command.parameters, parameter.violation? args = none := by
    intro parameter declared
    by_cases isTarget : parameter.name = key
    · refine Stock.violation?_target stock takes names ?_ parameter declared isTarget
      exact given.symm.imp_left And.left
    · exact others parameter declared isTarget
  have accepted : check command.parameters ⟨name, args, target.line id⟩ = .ok _ :=
    check_eq_ok_iff.mpr ⟨unbroken, rfl⟩
  refine ⟨_, accepted, fun context => ?_⟩
  have checked := checkedTarget stock takes fromWords accepted
  rcases given with held | ⟨absent, held⟩
  · obtain ⟨kept, source, always⟩ := checked.resolve_of_named held.value
    rw [held.source, stripQuotes_of_not_isWrapped names.bare] at source
    rw [always, Option.some.inj source]
  · rw [checked.resolve_of_first absent held.value, names.nodeId? held]

end TargetLine

/-- A target that is given by its spelling, in quotes or without, is the node that a stock command is
about, whatever is selected and whatever else is given that the check lets pass. And whatever target is
given, it is the one that is kept from the line, under the key or else as the first word, or none. -/
theorem named_target_is_resolved {command : Command Action} {key : String}
    (stock : command ∈ Stock.commands) (takes : command.TakesTarget key) :
    (∀ name ∈ command.names, ∀ (target : TargetLine name key) (id : String), NamesNode id →
      ∃ invocation, Invocation.ofLine (target.line id) = .ok invocation ∧
        Registry.stock.get? invocation.name = some command ∧
        ((∀ parameter ∈ command.parameters, parameter.name ≠ key →
            parameter.violation? invocation.args = none) →
          ∃ checked, check command.parameters invocation = .ok checked ∧
            ∀ context : Context ε, context.resolve checked.args key = .ok id)) ∧
    ∀ line invocation checked, Invocation.ofLine line = .ok invocation →
      check command.parameters invocation = .ok checked →
      (invocation.args.contains key || invocation.args.contains (positionalKey 0)) = true →
      ∀ (context : Context ε) (id : String), context.resolve checked.args key = .ok id →
        invocation.args.source?
            (if invocation.args.contains key then key else positionalKey 0) = some id ∧
          ∀ other : Context ε, other.resolve checked.args key = .ok id := by
  constructor
  · intro name isName target id names
    have registered : command ∈ Registry.stock.all :=
      Registry.reachable_stock.sound.mem_all_iff.mpr
        (Registry.holdsStock_stock command stock)
    have resolves := Registry.reachable_stock.sound.get?_eq_some_iff.mpr ⟨registered, isName⟩
    exact ⟨_, target.ofLine_line id, resolves, target.resolves_line stock takes names⟩
  · intro line invocation checked read accepted isGiven context id resolved
    have fromWords := Invocation.fromWords_ofLine read
    exact (checkedTarget stock takes fromWords accepted).resolve_of_given fromWords isGiven resolved

/-- A line that renames the node of its first word, an id that could be taken for a number. -/
def renamingLine : TargetLine "cw" "nodeId" where
  before := []
  after := ["--text", "New title"]
  place := .first .nil (by decide) (by decide)
  head := "cw"
  gap := " "
  tail := " --text 'New title'"
  spellsHead :=
    .words (show IsGap [] by decide)
      (.last (IsPlain.spellsWord (show IsPlain "cw" by decide) (by decide)) (by decide))
  isGap := by decide
  gapNotEmpty := by decide
  tailReads := rfl
  tailApart := by decide

theorem renamingLine_names_number :
    renamingLine.line "007" = "cw 007 --text 'New title'" ∧
      ∃ command ∈ Stock.commands, command.TakesTarget "nodeId" ∧
        ∃ invocation checked, Invocation.ofLine "cw 007 --text 'New title'" = .ok invocation ∧
          invocation.args.get? "0" = some (.integer 7) ∧
          check command.parameters invocation = .ok checked ∧
          ∀ context : Context Action, context.resolve checked.args "nodeId" = .ok "007" := by
  have renames : ∃ command ∈ Stock.commands, "cw" ∈ command.names ∧
      (∃ parameter ∈ command.parameters,
        parameter.name = "nodeId" ∧ parameter.type = .nodeId ∧ parameter.required = false) ∧
      ∀ parameter ∈ command.parameters, parameter.name ≠ "nodeId" →
        parameter.violation? (.ofWords ["007", "--text", "New title"]) = none := by
    decide +kernel
  obtain ⟨command, stock, isName, takes, others⟩ := renames
  have names : NamesNode "007" := by
    refine ⟨by decide, by decide, by decide, by decide, ?_⟩
    exact not_isWrapped_of_isIntegerShape (by decide)
  obtain ⟨invocation, read, -, checks⟩ :=
    (named_target_is_resolved stock takes).1 "cw" isName renamingLine "007" names
  obtain rfl := Except.ok.inj ((renamingLine.ofLine_line "007").symm.trans read)
  obtain ⟨checked, accepted, resolved⟩ := checks others
  exact ⟨rfl, command, stock, takes, _, checked, read, rfl, accepted, resolved⟩

end MindMap
