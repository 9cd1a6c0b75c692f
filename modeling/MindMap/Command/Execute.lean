import MindMap.Command.Executor

/-!
# Executing command lines

A line becomes an invocation, its name a command of a registry, its arguments checked ones, and then the
command's executor runs on the host. Whatever goes wrong on the way becomes a refusal; an unknown name
comes with the command that a search for it finds first.
-/

namespace MindMap

open CommandLine

namespace Registry

variable {σ ε : Type} [Host σ] [Executor ε]

/-- What the user is told about a word that names no command. -/
def unknownCommand (registry : Registry ε) (name : String) : String :=
  let unknown := "Unknown command: " ++ name
  match registry.search name with
  | [] => unknown
  | best :: _ => unknown ++ " (did you mean '" ++ best.name ++ "'?)"

/-- Run a command with these arguments, unchecked, in a context that starts now. -/
def runCommand (registry : Registry ε) (command : Command ε) (args : Arguments) : HostM σ Reply := do
  Executor.run command.executor (.now registry (← get)) args

/-- Execute an invocation on a host. -/
def execute (registry : Registry ε) (invocation : Invocation) (state : σ) : Reply × σ :=
  match registry.get? invocation.name with
  | none => (.refused (registry.unknownCommand invocation.name), state)
  | some command =>
    match check command.parameters invocation with
    | .error broken => (.refused (Violation.summary broken), state)
    | .ok checked =>
      match (registry.runCommand command checked.args).run state with
      | .ok reply reached => (reply, reached)
      | .error failure reached => (.ofFailure failure, reached)

/-- Execute a line on a host. -/
def executeLine (registry : Registry ε) (line : String) (state : σ) : Reply × σ :=
  match Invocation.ofLine line with
  | .error error => (.refused error.message, state)
  | .ok invocation => registry.execute invocation state

end Registry

end MindMap
