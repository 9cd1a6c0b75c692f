import MindMap.CommandLine.Invocation

/-!
# Parameters

A command declares the arguments it looks at as a list of parameters. `check` compares an invocation with
such a list: every parameter that is missing or of the wrong type is reported, in the order of
declaration, and otherwise the invocation goes through with defaults filled in and node ids marked as
such. Arguments that no parameter declares pass unchanged.
-/

namespace MindMap

open CommandLine

/-- The type of an argument. -/
inductive ArgumentType where
  | text
  /-- An integer or a number that is not NaN. -/
  | number
  | truth
  /-- A text that is not blank, or a number by the word it was read from. -/
  | nodeId
deriving DecidableEq, Repr, Inhabited

/-- The name of a type in messages and help. -/
def ArgumentType.name : ArgumentType → String
  | .text => "string"
  | .number => "number"
  | .truth => "boolean"
  | .nodeId => "node-id"

/-- The type of a name. -/
def ArgumentType.ofName? : String → Option ArgumentType
  | "string" => some .text
  | "number" => some .number
  | "boolean" => some .truth
  | "node-id" => some .nodeId
  | _ => none

/-- The declaration of one argument. -/
structure Parameter where
  name : String
  type : ArgumentType
  required : Bool := false
  /-- The value of an argument that is not given. -/
  default : Option Value := none
  /-- One line of help. -/
  description : String := ""

/-- How an invocation breaks a declaration. -/
inductive Violation where
  | missing (name : String)
  | mistyped (name : String) (type : ArgumentType)
deriving DecidableEq, Repr

/-- What a violation tells the user. -/
def Violation.message : Violation → String
  | .missing name => s!"Required argument '{name}' is missing"
  | .mistyped name type => s!"Argument '{name}' must be of type {type.name}"

/-- All violations in one line. -/
def Violation.summary (violations : List Violation) : String :=
  ", ".intercalate (violations.map message)

namespace ArgumentType

/-- The value that a command sees for a value of this type, read from the word `source` if from any, or
nothing if the value is of another type. -/
def accept? (type : ArgumentType) (value : Value) (source : Option String) : Option Value :=
  match type, value with
  | .text, .text _ | .text, .nodeId _ => some value
  | .number, .integer _ => some value
  | .number, .number x => if x.isNaN then none else some value
  | .truth, .truth _ => some value
  | .nodeId, .text id | .nodeId, .nodeId id => if Text.allBlank id then none else some (.nodeId id)
  | .nodeId, .integer _ | .nodeId, .number _ => some (.nodeId (source.getD value.display))
  | _, _ => none

end ArgumentType

namespace Parameter

/-- How the arguments break the declaration, if they do. -/
def violation? (parameter : Parameter) (args : Arguments) : Option Violation :=
  match args.get? parameter.name with
  | none => if parameter.required then some (.missing parameter.name) else none
  | some value =>
    match parameter.type.accept? value (args.source? parameter.name) with
    | some _ => none
    | none => some (.mistyped parameter.name parameter.type)

/-- The value that the declaration gives the argument: the accepted one, or the default. -/
def settled? (parameter : Parameter) (args : Arguments) : Option Value :=
  match args.get? parameter.name with
  | none => if parameter.required then none else parameter.default
  | some value => parameter.type.accept? value (args.source? parameter.name)

/-- Put into `settled` what the declaration makes of the arguments `given`. -/
def settle (given settled : Arguments) (parameter : Parameter) : Arguments :=
  match parameter.settled? given with
  | some value => settled.insert parameter.name value
  | none => settled

end Parameter

/-- How an invocation breaks a list of declarations, in their order. -/
def violations (parameters : List Parameter) (args : Arguments) : List Violation :=
  parameters.filterMap (·.violation? args)

/-- Check an invocation against declarations. -/
def check (parameters : List Parameter) (invocation : Invocation) :
    Except (List Violation) Invocation :=
  match violations parameters invocation.args with
  | [] =>
    .ok { invocation with
      args := parameters.foldl (Parameter.settle invocation.args) invocation.args }
  | broken => .error broken

end MindMap
