import MindMap.Proofs.Command.Targets
import MindMap.Proofs.Decimal.RoundTrip

/-!
# Checking twice

A check leaves nothing for a second one to do: where defaults are values of their types, what a check
returns passes the same check unchanged, down to the words that are kept for the arguments that no
declaration is about. A node that was named by a number keeps the spelling that the number had on the
line: `check_twice`.

The second check sees other arguments than the first, since values have become nodes and defaults have
come in. It is enough that the first one leaves each declaration `Settled`, and that a check of settled
declarations changes nothing. The former takes more than the declarations. A node made of a number is
spelled as the number was, and the second check would refuse a blank spelling, so it matters that none
is kept for a number: `Arguments.Built.readFrom`.
-/

namespace MindMap

open CommandLine

/-! ### Arguments that can be built -/

namespace CommandLine

namespace Arguments

/-- Arguments that have been put together from values and from words. Others would keep words that
their values were not read from. -/
inductive Built : Arguments → Prop
  | empty : Built .empty
  | insert {args : Arguments} (built : Built args) (key : String) (value : Value) :
      Built (args.insert key value)
  | insertWord {args : Arguments} (built : Built args) (key word : String) :
      Built (args.insertWord key word)

theorem built_ofWords (words : List String) : (ofWords words).Built :=
  readWords_invariant Built
    (fun _ _ name _ _ built => ⟨built.insert name (.truth true), built.insertWord name⟩)
    (fun place _ _ built word => built.insertWord (positionalKey place) word) .empty

/-- A word is kept only beside the value that was read from it. -/
theorem Built.readFrom {args : Arguments} (built : args.Built) {key source : String}
    (sourced : args.source? key = some source) :
    ∃ value, args.get? key = some value ∧ value.ReadFrom (some source) := by
  induction built with
  | empty => cases sourced
  | insert built name value inductionHypothesis =>
    rw [source?_insert] at sourced
    rw [get?_insert]
    split at sourced
    · cases sourced
    · next different =>
      rw [if_neg different]
      exact inductionHypothesis sourced
  | insertWord built name word inductionHypothesis =>
    rw [source?_insertWord] at sourced
    rw [get?_insertWord]
    split at sourced
    · next same =>
      cases sourced
      rw [if_pos same]
      exact ⟨_, rfl, Value.readFrom_ofWord word⟩
    · next different =>
      rw [if_neg different]
      exact inductionHypothesis sourced

/-- Inserting what is there already, read from no word, changes nothing. -/
theorem insert_eq_self {args : Arguments} {key : String} {value : Value}
    (found : args.get? key = some value) (unsourced : args.source? key = none) :
    args.insert key value = args := by
  apply ext_get?
  · intro other
    rw [get?_insert]
    split
    · next same => rw [same, found]
    · rfl
  · intro other
    rw [source?_insert]
    split
    · next same => rw [same, unsourced]
    · rfl

end Arguments

theorem Invocation.built_ofLine {line : String} {invocation : Invocation}
    (read : ofLine line = .ok invocation) : invocation.args.Built := by
  obtain ⟨_, rest, -, rfl⟩ := exists_words_of_ofLine read
  exact Arguments.built_ofWords rest

end CommandLine

/-! ### Numbers as text -/

theorem Decimal.exists_digit_of_writes {text : List Char} {magnitude : Rat}
    (writes : Writes text magnitude) : ∃ c ∈ text, c.isDigit = true := by
  obtain ⟨number, -, ⟨isWhole, -, -⟩, -⟩ := writes false
  obtain ⟨c, member⟩ := List.exists_mem_of_ne_nil _ isWhole.nonempty
  exact ⟨c, List.mem_append_left _ member, isWhole.areDigits c member⟩

theorem Decimal.exists_digit_magnitudeText (layout : Layout) (value : Binary) :
    ∃ c ∈ magnitudeText layout value, c.isDigit = true := by
  unfold magnitudeText
  split
  · exact exists_digit_of_writes (writes_zero layout.pointZero)
  · next nonzero => exact exists_digit_of_writes (writes_digits layout (shortest_ne_zero layout.tie nonzero))

/-- Something is written for every number, also where there is no magnitude to write. -/
theorem Decimal.allBlank_write (layout : Layout) (x : Float) :
    Text.allBlank (write layout x) = false := by
  unfold write
  split
  · decide
  · have shown : ∃ c ∈ if x.isInf then ['i', 'n', 'f'] else magnitudeText layout (.ofBits x.toBits),
        Text.isBlank c = false := by
      split
      · exact ⟨'i', List.mem_cons_self, by decide⟩
      · obtain ⟨c, member, digit⟩ := exists_digit_magnitudeText layout (.ofBits x.toBits)
        exact ⟨c, member, isBlank_of_isDigit digit⟩
    obtain ⟨c, member, noBlank⟩ := shown
    refine allBlank_eq_false (c := c) ?_ noBlank
    rw [String.toList_ofList]
    exact List.mem_append_right _ member

theorem allBlank_toString (n : Int) : Text.allBlank (toString n) = false := by
  obtain ⟨sign, whole⟩ := exists_sign (toString n).toList
  rw [takeMinus_toString] at whole
  obtain ⟨c, member⟩ := List.exists_mem_of_ne_nil _ (Decimal.digitChars_ne_nil n.natAbs)
  have digit := Decimal.AreDigits.digitChars n.natAbs c member
  refine allBlank_eq_false (c := c) ?_ (isBlank_of_isDigit digit)
  rw [whole]
  exact List.mem_append_right sign member

/-! ### Values that a check leaves as they are -/

/-- The values of a type as a command is to see them: what names a node is marked as such. -/
inductive ArgumentType.Fits : ArgumentType → Value → Prop
  | node {id : String} (notBlank : Text.allBlank id = false) : Fits .nodeId (.nodeId id)
  | plain {type : ArgumentType} {value : Value} (noNode : type ≠ .nodeId)
      (admits : type.Admits value) : Fits type value

namespace ArgumentType

variable {type : ArgumentType} {value : Value}

theorem Fits.admits (fits : type.Fits value) : type.Admits value := by
  cases fits with
  | node notBlank => exact .node notBlank
  | plain _ admits => exact admits

theorem Fits.accept? (fits : type.Fits value) (source : Option String) :
    type.accept? value source = some value := by
  rw [accept?_of_admits fits.admits]
  cases fits with
  | node => rfl
  | plain noNode => rw [if_neg noNode]

/-- The node that an accepted value names is one that is accepted. -/
theorem fits_asNode {source : Option String} (admits : nodeId.Admits value)
    (read : ∀ word, source = some word → value.ReadFrom (some word)) :
    nodeId.Fits (value.asNode source) := by
  cases source with
  | some word =>
    obtain ⟨id, -, names, notBlank⟩ := exists_spelling_of_admits (read word rfl) admits
    exact names ▸ .node notBlank
  | none =>
    cases admits with
    | textAsNode notBlank | node notBlank => exact .node notBlank
    | integerAsNode n => exact .node (allBlank_toString n)
    | numberAsNode x => exact .node (Decimal.allBlank_write .plain x)

end ArgumentType

/-- A declaration that leaves a check nothing to do: the argument is there as a command is to see it,
or nothing is to be put in its place. -/
inductive Parameter.Settled (parameter : Parameter) (args : Arguments) : Prop
  | present {value : Value} (found : args.get? parameter.name = some value)
      (fits : parameter.type.Fits value) (unsourced : args.source? parameter.name = none)
  | absent (missing : args.get? parameter.name = none) (optional : parameter.required = false)
      (noDefault : parameter.default = none)

section Settled

variable {parameters : List Parameter} {parameter : Parameter} {args given : Arguments}

theorem Parameter.Settled.not_violated (settled : parameter.Settled args) :
    ¬parameter.Violated args := by
  intro violated
  cases settled with
  | present found fits =>
    cases violated with
    | missing absent => cases found.symm.trans absent
    | mistyped given foreign =>
      cases found.symm.trans given
      exact foreign fits.admits
  | absent missing optional =>
    cases violated with
    | missing _ required => cases optional.symm.trans required
    | mistyped given => cases missing.symm.trans given

theorem Parameter.Settled.settle_eq_self (settled : parameter.Settled args) :
    parameter.settle args args = args := by
  unfold Parameter.settle Parameter.settled?
  cases settled with
  | present found fits unsourced =>
    rw [found]
    dsimp only
    rw [fits.accept?]
    exact Arguments.insert_eq_self found unsourced
  | absent missing optional noDefault =>
    rw [missing, optional, noDefault]
    rfl

theorem foldl_settle_of_settled (settled : ∀ parameter ∈ parameters, parameter.Settled args) :
    parameters.foldl (Parameter.settle args) args = args := by
  induction parameters with
  | nil => rfl
  | cons first rest inductionHypothesis =>
    rw [List.foldl_cons, (settled first List.mem_cons_self).settle_eq_self]
    exact inductionHypothesis fun parameter later => settled parameter (List.mem_cons_of_mem _ later)

/-- A check of settled declarations changes nothing. -/
theorem check_of_settled {invocation : Invocation}
    (settled : ∀ parameter ∈ parameters, parameter.Settled invocation.args) :
    check parameters invocation = .ok invocation := by
  refine check_eq_ok_iff.mpr ⟨fun parameter declared => ?_, ?_⟩
  · exact Parameter.violation?_of_not_violated (settled parameter declared).not_violated
  · rw [foldl_settle_of_settled settled]

/-- A check settles each declaration whose default is a value of its type. -/
theorem CheckedArguments.settled (checked : CheckedArguments parameters given args)
    (built : given.Built) (declared : parameter ∈ parameters) (kept : ¬parameter.Violated given)
    (defaultFits : ∀ value, parameter.default = some value → parameter.type.Fits value) :
    parameter.Settled args := by
  have unsourced := checked.unsourced parameter declared
  cases found : given.get? parameter.name with
  | some value =>
    have admits := Parameter.admits_of_not_violated kept found
    by_cases isNode : parameter.type = .nodeId
    · have named := checked.node parameter declared isNode value found
      refine .present named ?_ (unsourced (congrArg Option.isSome named))
      rw [isNode] at admits ⊢
      refine ArgumentType.fits_asNode admits fun word sourced => ?_
      obtain ⟨_, same, read⟩ := built.readFrom sourced
      cases found.symm.trans same
      exact read
    · have same := checked.kept parameter declared isNode value found
      exact .present same (.plain isNode admits) (unsourced (congrArg Option.isSome same))
  | none =>
    have byDefault := checked.default parameter declared found
    cases default : parameter.default with
    | some value =>
      rw [default] at byDefault
      exact .present byDefault (defaultFits value default)
        (unsourced (congrArg Option.isSome byDefault))
    | none =>
      rw [default] at byDefault
      exact .absent byDefault (Parameter.required_of_not_violated kept found) default

/-- A node that is given by a word is named by that word, whatever the word has been read as. -/
theorem CheckedArguments.get?_of_source? (checked : CheckedArguments parameters given args)
    (built : given.Built) (declared : parameter ∈ parameters) (kept : ¬parameter.Violated given)
    (isNode : parameter.type = .nodeId) {word : String}
    (sourced : given.source? parameter.name = some word) :
    args.get? parameter.name = some (.nodeId word) := by
  obtain ⟨value, found, read⟩ := built.readFrom sourced
  have admits := Parameter.admits_of_not_violated kept found
  rw [isNode] at admits
  obtain ⟨id, same, names, -⟩ := ArgumentType.exists_spelling_of_admits read admits
  rw [checked.node parameter declared isNode value found, sourced, names, Option.some.inj same]

end Settled

/-- The defaults of the stock commands are values of their types. -/
theorem Stock.defaults_fit {command : Command Action} (stock : command ∈ commands) :
    ∀ parameter ∈ command.parameters, ∀ value, parameter.default = some value →
      parameter.type.Fits value := by
  have plain : ∀ parameter ∈ command.parameters, parameter.default.all (fun value =>
      decide (parameter.type ≠ .nodeId ∧ parameter.type.Admits value)) = true := by
    revert command
    decide
  intro parameter declared value isDefault
  have fits := plain parameter declared
  rw [isDefault, Option.all_some, decide_eq_true_eq] at fits
  exact .plain fits.1 fits.2

/-- What a check accepts passes the same check again and is not changed by it, if no two declarations
share a name and the defaults are as commands are to see them. In particular a node keeps the spelling
that the first check took from the line. -/
theorem check_twice {parameters : List Parameter} (distinct : (parameters.map (·.name)).Nodup)
    (defaultsFit : ∀ parameter ∈ parameters, ∀ value, parameter.default = some value →
      parameter.type.Fits value)
    {invocation checked : Invocation} (built : invocation.args.Built)
    (accepted : check parameters invocation = .ok checked) :
    check parameters checked = .ok checked ∧
      ∀ parameter ∈ parameters, parameter.type = .nodeId → ∀ word,
        invocation.args.source? parameter.name = some word →
          checked.args.get? parameter.name = some (.nodeId word) := by
  obtain ⟨unbroken, settled⟩ := checkedArguments_of_check distinct accepted
  constructor
  · refine check_of_settled fun parameter declared => ?_
    exact settled.settled built declared (unbroken parameter declared)
      (defaultsFit parameter declared)
  · intro parameter declared isNode word sourced
    exact settled.get?_of_source? built declared (unbroken parameter declared) isNode sourced

theorem check_twice_of_number :
    ∃ command ∈ Stock.commands, "move" ∈ command.names ∧
      ∃ invocation checked, Invocation.ofLine "move --nodeId 007 --target b" = .ok invocation ∧
        invocation.args.get? "nodeId" = some (.integer 7) ∧
        check command.parameters invocation = .ok checked ∧
        check command.parameters checked = .ok checked ∧
        checked.args.get? "nodeId" = some (.nodeId "007") := by
  have moves : ∃ command ∈ Stock.commands, "move" ∈ command.names ∧
      (∃ parameter ∈ command.parameters, parameter.name = "nodeId" ∧ parameter.type = .nodeId) ∧
      ∀ parameter ∈ command.parameters,
        parameter.violation? (.ofWords ["--nodeId", "007", "--target", "b"]) = none := by
    decide +kernel
  obtain ⟨command, stock, isName, ⟨parameter, declared, name, isNode⟩, others⟩ := moves
  have read : Invocation.ofLine "move --nodeId 007 --target b" =
      .ok ⟨"move", .ofWords ["--nodeId", "007", "--target", "b"], "move --nodeId 007 --target b"⟩ := rfl
  have accepted : check command.parameters
      ⟨"move", .ofWords ["--nodeId", "007", "--target", "b"], "move --nodeId 007 --target b"⟩ = .ok _ :=
    check_eq_ok_iff.mpr ⟨others, rfl⟩
  obtain ⟨again, named⟩ := check_twice (Stock.distinct_parameters stock) (Stock.defaults_fit stock)
    (Invocation.built_ofLine read) accepted
  refine ⟨command, stock, isName, _, _, read, rfl, accepted, again, ?_⟩
  rw [← name]
  exact named parameter declared isNode "007" (name ▸ rfl)

end MindMap
