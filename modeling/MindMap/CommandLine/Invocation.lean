import MindMap.CommandLine.Arguments
import MindMap.CommandLine.Quoted

/-!
# Invocations

A command's name with its arguments, and the line that says so. An invocation is read from a line, or
built by a program, which then also writes the line: each argument as a flag with its value as one quoted
word.
-/

namespace MindMap.CommandLine

/-- A command to be run. -/
structure Invocation where
  /-- The command's name or alias, as typed. -/
  name : String
  args : Arguments
  /-- The line that the invocation was read from, or that would say it. -/
  line : String

instance : Inhabited Invocation := ⟨⟨"", .empty, ""⟩⟩

namespace Invocation

/-- One argument, written as a flag with its value. -/
def writeFlag (entry : String × Value) : String := s!" --{entry.1} {quoteWord entry.2.display}"

/-- The line that gives a command arguments by flags, in order of key. -/
def writeLine (name : String) (args : Arguments) : String :=
  args.values.entries.foldl (fun line entry => line ++ writeFlag entry) name

/-- An invocation that no line was read for. -/
def ofArguments (name : String) (args : Arguments) : Invocation :=
  ⟨name, args, writeLine name args⟩

/-- Read an invocation from a line. -/
def ofLine (line : String) : Except LineError Invocation := do
  match ← words line with
  | [] => throw .noCommand
  | name :: rest => return ⟨name, .ofWords rest, line⟩

end Invocation

end MindMap.CommandLine
