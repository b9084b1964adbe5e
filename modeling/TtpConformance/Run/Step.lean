import TtpConformance.Run.Program
import TtpConformance.Text.Blank

/-!
# Steps of a run

Programs that may end with an error, and the common ways of using commands: taking the output of
one that must succeed, reading and writing files, and asking yes-or-no questions, for which any
exit code but zero means no.

## Main definitions

* `Step` — a program that may end with an error.
* `Step.execute`, `Step.checked` — a command, and one that has to succeed.
* `Step.fileText`, `Step.writeFile`, `Step.copyFile`, `Step.test` — commands by use.
-/

namespace TtpConformance

/-- A program that may end with an error. -/
abbrev Step (α : Type) := ExceptT RunError Program α

namespace Step

/-- A single request. -/
def request (r : Request) : Step r.Reply := ExceptT.lift (Program.request r)

/-- A result that needs no request. -/
def ofExcept {α : Type} (result : Except RunError α) : Step α := ExceptT.mk (pure result)

/-- Runs a command; only one that cannot be started is an error. -/
def execute (host : Host) (command : Command) : Step Output := do
  match ← request (.command host command) with
  | .ok output => return output
  | .error reason => throw (.io reason)

/-- Runs a command that has to succeed, for its output. -/
def checked (host : Host) (command : Command) : Step String := do
  let output ← execute host command
  if output.succeeded then return output.stdout
  else
    throw (.command host.text command.script output.exitCode (Text.trimmed output.stderr))

/-- Runs a command that answers a question by its exit code. -/
def test (host : Host) (command : Command) : Step Bool := do
  return (← execute host command).succeeded

/-- The contents of a file. -/
def fileText (host : Host) (path : String) : Step String := checked host (.readFile path)

/-- Writes a line to a file. -/
def writeFile (host : Host) (path value : String) : Step Unit :=
  discard (checked host (.writeFile path value))

/-- Writes the contents of a file to another path of the same host. -/
def copyFile (host : Host) (source destination : String) : Step Unit :=
  discard (checked host (.copyFile source destination))

/-- Whether two files of a host are equal. -/
def filesMatch (host : Host) (left right : String) : Step Bool :=
  test host (.compareFiles left right)

/-- Whether a host has a program. -/
def hasProgram (host : Host) (program : String) : Step Bool :=
  test host (.testProgram program)

/-- Waits. -/
def pause (length : Duration) : Step Unit := request (.pause length)

/-- A step whose error is made into another one. -/
def mapError {α : Type} (f : RunError → RunError) (step : Step α) : Step α :=
  ExceptT.mk do
    match ← step.run with
    | .ok a => return .ok a
    | .error e => return .error (f e)

end Step

end TtpConformance
