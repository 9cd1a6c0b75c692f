import MindMap.Command.Parameter
import MindMap.Proofs.CommandLine.Sources

/-!
# Checked arguments

What a check of an invocation against declarations comes to. It reports each declaration that is broken,
once and in order, and if none is, it settles the arguments: those that are declared keep their values,
or name nodes, or are the defaults, and the others stay as they are. Both are said by key, where no two
declarations share a name: `check_is_exact`.

The arguments are settled one declaration after another, each from the arguments that were given, so it
is enough to know what one declaration does to one key: `get?_settle` and `source?_settle`.
-/

namespace MindMap

open CommandLine

/-! ### Values of a type -/

/-- The values of a type. -/
inductive ArgumentType.Admits : ArgumentType → Value → Prop
  | text (content : String) : Admits .text (.text content)
  | nodeAsText (id : String) : Admits .text (.nodeId id)
  | integer (n : Int) : Admits .number (.integer n)
  | number {x : Float} (notNaN : x.isNaN = false) : Admits .number (.number x)
  | truth (b : Bool) : Admits .truth (.truth b)
  | textAsNode {content : String} (notBlank : Text.allBlank content = false) :
      Admits .nodeId (.text content)
  | node {id : String} (notBlank : Text.allBlank id = false) : Admits .nodeId (.nodeId id)
  | integerAsNode (n : Int) : Admits .nodeId (.integer n)
  | numberAsNode (x : Float) : Admits .nodeId (.number x)

/-- The node that a value names: a text by itself, and a number by the word that it was read from, or
else by its digits. -/
def CommandLine.Value.asNode (source : Option String) : Value → Value
  | .text id | .nodeId id => .nodeId id
  | value => .nodeId (source.getD value.display)

namespace ArgumentType

variable {type : ArgumentType} {value : Value}

/-- A value of the type is accepted as it is, or as the node that it names. -/
theorem accept?_of_admits (admits : type.Admits value) (source : Option String) :
    type.accept? value source = some (if type = .nodeId then value.asNode source else value) := by
  cases admits with
  | text | nodeAsText | integer | truth | integerAsNode | numberAsNode => rfl
  | number notNaN => exact if_neg (ne_true_of_eq_false notNaN)
  | textAsNode notBlank | node notBlank => simp [accept?, notBlank, Value.asNode]

/-- No other value is accepted. -/
theorem admits_of_accept? {source : Option String} {accepted : Value}
    (accepts : type.accept? value source = some accepted) : type.Admits value := by
  unfold accept? at accepts
  split at accepts
  · exact .text _
  · exact .nodeAsText _
  · exact .integer _
  · split at accepts
    · cases accepts
    · next notNaN => exact .number (eq_false_of_ne_true notNaN)
  · exact .truth _
  · split at accepts
    · cases accepts
    · next notBlank => exact .textAsNode (eq_false_of_ne_true notBlank)
  · split at accepts
    · cases accepts
    · next notBlank => exact .node (eq_false_of_ne_true notBlank)
  · exact .integerAsNode _
  · exact .numberAsNode _
  · cases accepts

instance (type : ArgumentType) (value : Value) : Decidable (type.Admits value) :=
  decidable_of_iff ((type.accept? value none).isSome = true)
    ⟨fun accepts => admits_of_accept? (Option.some_get accepts).symm,
      fun admits => by rw [accept?_of_admits admits]; rfl⟩

theorem accept?_of_not_admits (foreign : ¬type.Admits value) (source : Option String) :
    type.accept? value source = none :=
  Option.eq_none_iff_forall_ne_some.mpr fun _ accepts => foreign (admits_of_accept? accepts)

/-- What was read from a word names a node by that word, which is not blank. -/
theorem exists_spelling_of_admits {source : Option String} (read : value.ReadFrom source)
    (admits : nodeId.Admits value) :
    ∃ id, source = some id ∧ value.asNode source = .nodeId id ∧ Text.allBlank id = false := by
  cases read with
  | truth => cases admits
  | text =>
    cases admits with
    | textAsNode notBlank => exact ⟨_, rfl, rfl, notBlank⟩
  | integer spells => exact ⟨_, rfl, rfl, spells⟩
  | number spells => exact ⟨_, rfl, rfl, spells⟩

end ArgumentType

/-! ### Broken declarations -/

namespace Parameter

variable {parameter : Parameter} {args : Arguments}

/-- The ways to break a declaration: to leave out what is required, and to give what is not of the
type. -/
inductive Violated (parameter : Parameter) (args : Arguments) : Prop
  | missing (absent : args.get? parameter.name = none) (required : parameter.required = true)
  | mistyped {value : Value} (given : args.get? parameter.name = some value)
      (foreign : ¬parameter.type.Admits value)

/-- What is reported of a broken declaration. -/
def fault (parameter : Parameter) (args : Arguments) : Violation :=
  if args.contains parameter.name then .mistyped parameter.name parameter.type
  else .missing parameter.name

theorem violation?_of_violated (violated : parameter.Violated args) :
    parameter.violation? args = some (parameter.fault args) := by
  unfold violation? fault Arguments.contains Table.contains
  cases violated with
  | missing absent required =>
    rw [absent, show args.values.get? parameter.name = none from absent, required]
    rfl
  | mistyped given foreign =>
    rw [given, show args.values.get? parameter.name = some _ from given]
    dsimp only
    rw [ArgumentType.accept?_of_not_admits foreign]
    rfl

theorem violation?_of_not_violated (kept : ¬parameter.Violated args) :
    parameter.violation? args = none := by
  unfold violation?
  cases given : args.get? parameter.name with
  | none => exact if_neg fun required => kept (.missing given required)
  | some value =>
    have admits : parameter.type.Admits value := by
      by_contra foreign
      exact kept (.mistyped given foreign)
    dsimp only
    rw [ArgumentType.accept?_of_admits admits]

theorem violation?_eq_none_iff : parameter.violation? args = none ↔ ¬parameter.Violated args := by
  constructor
  · intro notReported violated
    cases notReported.symm.trans (violation?_of_violated violated)
  · exact violation?_of_not_violated

instance (parameter : Parameter) (args : Arguments) : Decidable (parameter.Violated args) :=
  decidable_of_iff (¬parameter.violation? args = none)
    ((not_congr violation?_eq_none_iff).trans not_not)

/-- What is not broken and not given is not required. -/
theorem required_of_not_violated (kept : ¬parameter.Violated args)
    (absent : args.get? parameter.name = none) : parameter.required = false :=
  eq_false_of_ne_true fun required => kept (.missing absent required)

theorem admits_of_not_violated (kept : ¬parameter.Violated args) {value : Value}
    (given : args.get? parameter.name = some value) : parameter.type.Admits value := by
  by_contra foreign
  exact kept (.mistyped given foreign)

end Parameter

/-- Each broken declaration is reported once, in the order of declaration. -/
theorem violations_eq (parameters : List Parameter) (args : Arguments) :
    violations parameters args =
      (parameters.filter fun parameter => parameter.Violated args).map (·.fault args) := by
  induction parameters with
  | nil => rfl
  | cons parameter rest inductionHypothesis =>
    unfold violations at inductionHypothesis ⊢
    rw [List.filterMap_cons, inductionHypothesis, List.filter_cons]
    by_cases violated : parameter.Violated args
    · rw [Parameter.violation?_of_violated violated, if_pos (decide_eq_true violated), List.map_cons]
    · rw [Parameter.violation?_of_not_violated violated, if_neg (by simpa using violated)]

section Settling

variable {parameters : List Parameter} {parameter : Parameter} {invocation checked : Invocation}
  {given settled : Arguments} {key : String} {value : Value}

theorem check_eq_ok_iff :
    check parameters invocation = .ok checked ↔
      (∀ parameter ∈ parameters, parameter.violation? invocation.args = none) ∧
        checked = { invocation with
          args := parameters.foldl (Parameter.settle invocation.args) invocation.args } := by
  have noneBroken : violations parameters invocation.args = [] ↔
      ∀ parameter ∈ parameters, parameter.violation? invocation.args = none :=
    List.filterMap_eq_nil_iff
  rw [← noneBroken]
  unfold check
  split
  · next none => rw [Except.ok.injEq, eq_comm, and_iff_right none]
  · next broken isBroken =>
    constructor
    · rintro ⟨⟩
    · rintro ⟨none, -⟩
      exact absurd none isBroken

theorem check_of_violated (violated : ∃ parameter ∈ parameters, parameter.Violated invocation.args) :
    check parameters invocation = .error (violations parameters invocation.args) := by
  unfold check
  split
  · next none =>
    obtain ⟨parameter, declared, violated⟩ := violated
    have reported := Parameter.violation?_of_violated violated
    cases (List.filterMap_eq_nil_iff.mp none parameter declared).symm.trans reported
  · rfl

/-! ### Settled arguments -/

/-- One declaration settles the key of its name and no other. -/
theorem get?_settle (parameter : Parameter) (given settled : Arguments) (key : String) :
    (parameter.settle given settled).get? key =
      if key = parameter.name then (parameter.settled? given).or (settled.get? key)
      else settled.get? key := by
  unfold Parameter.settle
  cases parameter.settled? given with
  | some value => exact Arguments.get?_insert ..
  | none => rw [Option.none_or, ite_self]

/-- What has been settled is read from no word. -/
theorem source?_settle (parameter : Parameter) (given settled : Arguments) (key : String) :
    (parameter.settle given settled).source? key =
      if key = parameter.name ∧ (parameter.settled? given).isSome = true then none
      else settled.source? key := by
  unfold Parameter.settle
  cases parameter.settled? given with
  | some value => simpa using Arguments.source?_insert settled parameter.name key value
  | none => simp

theorem settle_of_ne (different : key ≠ parameter.name) (given settled : Arguments) :
    (parameter.settle given settled).get? key = settled.get? key ∧
      (parameter.settle given settled).source? key = settled.source? key := by
  rw [get?_settle, source?_settle, if_neg different, if_neg fun both => different both.1]
  exact ⟨rfl, rfl⟩

/-- What is declared under other names stays as it was given. -/
theorem foldl_settle_of_undeclared (given settled : Arguments)
    (undeclared : ∀ parameter ∈ parameters, parameter.name ≠ key) :
    (parameters.foldl (Parameter.settle given) settled).get? key = settled.get? key ∧
      (parameters.foldl (Parameter.settle given) settled).source? key = settled.source? key := by
  induction parameters generalizing settled with
  | nil => exact ⟨rfl, rfl⟩
  | cons first rest inductionHypothesis =>
    have different : key ≠ first.name := (undeclared first List.mem_cons_self).symm
    obtain ⟨value, source⟩ := settle_of_ne different given settled
    rw [List.foldl_cons, ← value, ← source]
    exact inductionHypothesis _ fun other member =>
      undeclared other (List.mem_cons_of_mem _ member)

/-- What is declared once under a name is there as that declaration has settled it. -/
theorem foldl_settle_of_declared (distinct : (parameters.map (·.name)).Nodup)
    (declared : parameter ∈ parameters) (given settled : Arguments) :
    (parameters.foldl (Parameter.settle given) settled).get? parameter.name =
        (parameter.settled? given).or (settled.get? parameter.name) ∧
      (parameters.foldl (Parameter.settle given) settled).source? parameter.name =
        if (parameter.settled? given).isSome = true then none
        else settled.source? parameter.name := by
  induction parameters generalizing settled with
  | nil => cases declared
  | cons first rest inductionHypothesis =>
    obtain ⟨fresh, distinctRest⟩ := List.nodup_cons.mp distinct
    rcases List.mem_cons.mp declared with rfl | later
    · have undeclared : ∀ other ∈ rest, other.name ≠ parameter.name :=
        fun other member same => fresh (List.mem_map.mpr ⟨other, member, same⟩)
      obtain ⟨value, source⟩ :=
        foldl_settle_of_undeclared given (parameter.settle given settled) undeclared
      rw [get?_settle, if_pos rfl] at value
      rw [source?_settle] at source
      exact ⟨value, by simpa using source⟩
    · have different : parameter.name ≠ first.name :=
        fun same => fresh (List.mem_map.mpr ⟨parameter, later, same⟩)
      obtain ⟨value, source⟩ := settle_of_ne different given settled
      rw [List.foldl_cons, ← value, ← source]
      exact inductionHypothesis distinctRest later _

/-- A key with no value and no default gets none. -/
theorem get?_foldl_settle_of_absent
    (noDefault : ∀ parameter ∈ parameters, parameter.name = key → parameter.default = none)
    (absent : given.get? key = none) (settled : Arguments) :
    (parameters.foldl (Parameter.settle given) settled).get? key = settled.get? key := by
  induction parameters generalizing settled with
  | nil => rfl
  | cons parameter rest inductionHypothesis =>
    have restNoDefault : ∀ other ∈ rest, other.name = key → other.default = none :=
      fun other member => noDefault other (List.mem_cons_of_mem _ member)
    have nothing : parameter.name = key → parameter.settled? given = none := by
      intro same
      simp [Parameter.settled?, same, absent, noDefault parameter List.mem_cons_self same]
    rw [List.foldl_cons, inductionHypothesis restNoDefault, get?_settle]
    split
    · next same => rw [nothing same.symm, Option.none_or]
    · rfl

/-- Checking makes up no argument that has no default. -/
theorem get?_of_check
    (noDefault : ∀ parameter ∈ parameters, parameter.name = key → parameter.default = none)
    (absent : invocation.args.get? key = none)
    (accepted : check parameters invocation = .ok checked) : checked.args.get? key = none := by
  obtain ⟨-, rfl⟩ := check_eq_ok_iff.mp accepted
  exact (get?_foldl_settle_of_absent noDefault absent _).trans absent

end Settling

/-- Arguments after a check that has accepted them. -/
structure CheckedArguments (parameters : List Parameter) (given checked : Arguments) : Prop where
  /-- What is not declared keeps its value and the word that it was read from. -/
  undeclared : ∀ key, (∀ parameter ∈ parameters, parameter.name ≠ key) →
    checked.get? key = given.get? key ∧ checked.source? key = given.source? key
  kept : ∀ parameter ∈ parameters, parameter.type ≠ .nodeId → ∀ value,
    given.get? parameter.name = some value → checked.get? parameter.name = some value
  node : ∀ parameter ∈ parameters, parameter.type = .nodeId → ∀ value,
    given.get? parameter.name = some value →
      checked.get? parameter.name = some (value.asNode (given.source? parameter.name))
  /-- Without a default, what is absent stays so. -/
  default : ∀ parameter ∈ parameters, given.get? parameter.name = none →
    checked.get? parameter.name = parameter.default
  nothingElse : ∀ key, checked.contains key = true → given.contains key = true ∨
    ∃ parameter ∈ parameters, parameter.name = key ∧ parameter.default.isSome = true
  /-- Nothing that is declared is kept by a word any longer. -/
  unsourced : ∀ parameter ∈ parameters, checked.contains parameter.name = true →
    checked.source? parameter.name = none

section Checked

variable {parameters : List Parameter} {parameter : Parameter} {given : Arguments}

theorem settled?_of_given (kept : ¬parameter.Violated given) {value : Value}
    (found : given.get? parameter.name = some value) :
    parameter.settled? given =
      some (if parameter.type = .nodeId then value.asNode (given.source? parameter.name)
        else value) := by
  unfold Parameter.settled?
  rw [found]
  exact ArgumentType.accept?_of_admits (Parameter.admits_of_not_violated kept found) _

theorem settled?_of_absent (kept : ¬parameter.Violated given)
    (absent : given.get? parameter.name = none) : parameter.settled? given = parameter.default := by
  unfold Parameter.settled?
  rw [absent, Parameter.required_of_not_violated kept absent]
  rfl

theorem checkedArguments_foldl_settle (distinct : (parameters.map (·.name)).Nodup)
    (unbroken : ∀ parameter ∈ parameters, ¬parameter.Violated given) :
    CheckedArguments parameters given (parameters.foldl (Parameter.settle given) given) := by
  have byName := fun parameter (declared : parameter ∈ parameters) =>
    foldl_settle_of_declared distinct declared given given
  constructor
  case undeclared => exact fun key undeclared => foldl_settle_of_undeclared given given undeclared
  case kept =>
    intro parameter declared noNode value found
    rw [(byName parameter declared).1, settled?_of_given (unbroken parameter declared) found,
      if_neg noNode, Option.some_or]
  case node =>
    intro parameter declared isNode value found
    rw [(byName parameter declared).1, settled?_of_given (unbroken parameter declared) found,
      if_pos isNode, Option.some_or]
  case default =>
    intro parameter declared absent
    rw [(byName parameter declared).1, settled?_of_absent (unbroken parameter declared) absent,
      absent, Option.or_none]
  case nothingElse =>
    intro key present
    by_contra neither
    obtain ⟨absent, noDefault⟩ := not_or.mp neither
    have noValue : given.get? key = none := Option.not_isSome_iff_eq_none.mp absent
    have allWithout : ∀ parameter ∈ parameters, parameter.name = key → parameter.default = none := by
      intro parameter declared same
      by_contra isDefault
      exact noDefault ⟨parameter, declared, same, Option.isSome_iff_ne_none.mpr isDefault⟩
    have stillNone := (get?_foldl_settle_of_absent allWithout noValue given).trans noValue
    exact absurd present (Option.not_isSome_iff_eq_none.mpr stillNone)
  case unsourced =>
    intro parameter declared present
    obtain ⟨value, source⟩ := byName parameter declared
    rw [source]
    refine if_pos ?_
    by_contra unsettled
    have nothing := Option.not_isSome_iff_eq_none.mp unsettled
    cases found : given.get? parameter.name with
    | some value =>
      rw [settled?_of_given (unbroken parameter declared) found] at nothing
      cases nothing
    | none =>
      rw [nothing, found] at value
      exact absurd present (Option.not_isSome_iff_eq_none.mpr value)

/-- What a check accepts breaks no declaration, and comes out as checked arguments. -/
theorem checkedArguments_of_check (distinct : (parameters.map (·.name)).Nodup)
    {invocation checked : Invocation} (accepted : check parameters invocation = .ok checked) :
    (∀ parameter ∈ parameters, ¬parameter.Violated invocation.args) ∧
      CheckedArguments parameters invocation.args checked.args := by
  obtain ⟨noneReported, rfl⟩ := check_eq_ok_iff.mp accepted
  have unbroken : ∀ parameter ∈ parameters, ¬parameter.Violated invocation.args :=
    fun parameter declared => Parameter.violation?_eq_none_iff.mp (noneReported parameter declared)
  exact ⟨unbroken, checkedArguments_foldl_settle distinct unbroken⟩

end Checked

/-- A check refuses an invocation exactly if a declaration is broken, and then reports each broken one
once, in the order of declaration. Otherwise it changes the arguments and nothing else, and of the
arguments those that are declared: they keep their values or name nodes, and defaults fill in what is
absent. -/
theorem check_is_exact {parameters : List Parameter} (distinct : (parameters.map (·.name)).Nodup)
    (invocation : Invocation) :
    ((∃ broken, check parameters invocation = .error broken) ↔
        ∃ parameter ∈ parameters, parameter.Violated invocation.args) ∧
      (∀ broken, check parameters invocation = .error broken →
        broken = (parameters.filter fun parameter => parameter.Violated invocation.args).map
          (·.fault invocation.args)) ∧
      ∀ checked, check parameters invocation = .ok checked →
        checked.name = invocation.name ∧ checked.line = invocation.line ∧
          CheckedArguments parameters invocation.args checked.args := by
  by_cases violated : ∃ parameter ∈ parameters, parameter.Violated invocation.args
  · rw [check_of_violated violated]
    refine ⟨⟨fun _ => violated, fun _ => ⟨_, rfl⟩⟩, fun broken refused => ?_, fun checked accepted => ?_⟩
    · cases refused
      exact violations_eq parameters invocation.args
    · cases accepted
  · have unbroken : ∀ parameter ∈ parameters, ¬parameter.Violated invocation.args :=
      fun parameter declared broken => violated ⟨parameter, declared, broken⟩
    have accepted := check_eq_ok_iff.mpr ⟨fun parameter declared =>
      Parameter.violation?_of_not_violated (unbroken parameter declared), rfl⟩
    rw [accepted]
    refine ⟨⟨?_, fun broken => absurd broken violated⟩, ?_, fun checked same => ?_⟩
    · rintro ⟨broken, refused⟩
      cases refused
    · intro broken refused
      cases refused
    · cases same
      exact ⟨rfl, rfl, checkedArguments_foldl_settle distinct unbroken⟩

/-- Declarations of a move: what is moved, where to, and how the two are to stand. -/
def movingParameters : List Parameter :=
  [{ name := "nodeId", type := .nodeId },
    { name := "target", type := .nodeId, required := true },
    { name := "position", type := .text, default := some (.text "child") }]

theorem check_move_of_number :
    check movingParameters ⟨"move", .ofWords ["--nodeId", "007", "--position", "5"], ""⟩ =
        .error [.missing "target", .mistyped "position" .text] ∧
      ∃ checked, check movingParameters
          ⟨"move", .ofWords ["--nodeId", "007", "--target", "b", "--to", "8"], ""⟩ = .ok checked ∧
        checked.args.get? "nodeId" = some (.nodeId "007") ∧
        checked.args.get? "position" = some (.text "child") ∧
        checked.args.source? "to" = some "8" := by
  have distinct : (movingParameters.map (·.name)).Nodup := by decide
  constructor
  · obtain ⟨refuses, exact, -⟩ := check_is_exact distinct
      ⟨"move", .ofWords ["--nodeId", "007", "--position", "5"], ""⟩
    obtain ⟨broken, refused⟩ := refuses.mpr
      ⟨_, List.mem_cons_of_mem _ List.mem_cons_self, .missing rfl rfl⟩
    rw [refused, exact broken refused]
    rfl
  · obtain ⟨-, -, accepts⟩ := check_is_exact distinct
      ⟨"move", .ofWords ["--nodeId", "007", "--target", "b", "--to", "8"], ""⟩
    obtain ⟨-, -, settled⟩ := accepts _ rfl
    refine ⟨_, rfl, ?_, ?_, ?_⟩
    · exact settled.node _ List.mem_cons_self rfl _ rfl
    · exact settled.default _ (List.mem_cons_of_mem _ (List.mem_cons_of_mem _ List.mem_cons_self)) rfl
    · exact (settled.undeclared "to" (by decide)).2

end MindMap
