import TypedLogging.Text.Utf8

namespace TypedLogging

structure ProcessCommand where
  program : String
  arguments : List String
  deriving DecidableEq

def ProcessCommand.text (command : ProcessCommand) : String :=
  "`" ++ " ".intercalate (command.program :: command.arguments) ++ "`"

/-- The exit status of a process, of which eight bits remain. -/
def exitCodeOf (status : Nat) : Nat := status % 256

def statusText (status : Nat) : String := s!"exit status: {exitCodeOf status}"

structure Finished where
  status : Nat
  stdout : List UInt8
  stderr : List UInt8
  deriving DecidableEq

inductive ProcessError
  | spawn (command : ProcessCommand)
  | failed (command : ProcessCommand) (finished : Finished)
  deriving DecidableEq

namespace ProcessError

def message : ProcessError → String
  | .spawn command => s!"could not execute process {command.text}"
  | .failed command finished =>
    s!"process didn't exit successfully: {command.text} ({statusText finished.status})"

def output : ProcessError → Option Finished
  | .spawn _ => none
  | .failed _ finished => some finished

end ProcessError

end TypedLogging
