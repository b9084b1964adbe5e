import TtpConformance.Lock.Directory
import TtpConformance.Shell.Interpreter

/-!
# Commands by way of a shell

How a command line gets to its host. On the local host a shell runs it; to reach any other host a
program is started with the name of the host and the command line as its two arguments. What the
program prints is octets, which are shown as text.

## Main definitions

* `runScript` — a command line on the local host.
* `start` — a program with its arguments.
* `execute` — a command line on a host.
* `world` — surroundings of programs in which commands run this way.
-/

namespace TtpConformance.Shell

/-- The text of octets. -/
def textOfOctets (bs : List UInt8) : String := .ofList (Text.Utf8.decodeLossy bs)

/-- The wording of an error in a command line. -/
def SyntaxError.message : SyntaxError → String
  | .unterminatedQuotes => "Unterminated quoted string"
  | .unexpectedEnd => "end of file unexpected"
  | .unexpected (.word _) => "word unexpected"
  | .unexpected (.operator o) =>
    match o with
    | .newline => "newline unexpected"
    | .semicolon => "\";\" unexpected"
    | .background => "\"&\" unexpected"
    | .ifOk => "\"&&\" unexpected"
    | .ifFailed => "\"||\" unexpected"
    | .pipe => "\"|\" unexpected"
    | .openParenthesis => "\"(\" unexpected"
    | .closeParenthesis => "\")\" unexpected"
    | .redirect .. => "redirection unexpected"

/-- What a shell leaves. A signal ends it without an exit code. -/
def outputOf (result : State × Ending) : Output where
  exitCode := if result.2 = .killed then -1 else (result.1.status : Int)
  stdout := textOfOctets (result.1.textOf .stdout)
  stderr := textOfOctets (result.1.textOf .stderr)

/-- Runs a command line in a shell. -/
def runScript (script : String) : Output :=
  match parse script with
  | .ok tree => outputOf (tree.run {} {})
  | .error e => { exitCode := 2, stderr := "sh: 1: Syntax error: " ++ e.message ++ "\n" }

/-- The error for a program that is not there. -/
def notFound : String := "No such file or directory (os error 2)"

/-- What a utility leaves. -/
def outputOfEffect (e : Effect) : Output where
  exitCode := e.status
  stdout := textOfOctets e.output
  stderr := textOfOctets e.errors

/-- Starts a program. -/
def start (program : String) (arguments : List String) : Execution :=
  match programName? program, arguments with
  | some "sh", ["-c", script] => .ok (runScript script)
  | some "sh", file :: _ =>
    .ok { exitCode := 2, stderr := "sh: 0: cannot open " ++ file ++ ": No such file\n" }
  | some name, arguments =>
    match external? {} name arguments [] with
    | some effect => .ok (outputOfEffect effect)
    | none => .error notFound
  | none, _ => .error notFound

/-- Whether a text cannot be an argument of a program. -/
def hasNul (s : String) : Bool := s.toList.contains (Char.ofNat 0)

/-- Runs a command line on a host, which `program` reaches if it is not the local one. -/
def execute (program : String) (host : Host) (script : String) : Execution :=
  match host with
  | .self =>
    if hasNul script then .error "nul byte found in provided data" else .ok (runScript script)
  | .remote name =>
    if hasNul program || hasNul name || hasNul script then
      .error "nul byte found in provided data"
    else start program [name, script]

/-- Surroundings in which commands run in this way and locks are files. Commands at the same time
are run one after the other. -/
def world (program : String) : World LockDirectory
  | .command host command, locks => (execute program host command.script, locks)
  | .together jobs, locks =>
    (jobs.zipIdx.map fun ((host, command), index) =>
      (index, execute program host command.script), locks)
  | .pause _, locks => ((), locks)
  | .acquire owner, locks => locks.acquire owner
  | .release lock, locks => locks.release lock

end TtpConformance.Shell
