import TtpConformance.Shell.Grammar
import TtpConformance.Shell.Printing
import TtpConformance.Text.Blank

/-!
# Running a command line

A shell with the utilities that need no other program: printing, copying input to output, tests,
and ending by an exit code or a signal. It keeps the files that its own commands write; apart from
them there is `/dev/null`.

A command line ends at its last command, at `exit`, or when the shell gets a signal. Both sides of
a pipe and groups in parentheses are shells of their own: what they set is lost, and `exit` ends
only them. A signal ends everything.

## Main definitions

* `Streams`, `Sink` — where a command reads from and writes to.
* `State` — what commands leave for the next ones.
* `utility` — the utilities.
* `Tree.run` — a command line.
-/

namespace TtpConformance.Shell

/-- Where a stream goes. -/
inductive Sink where
  | stdout
  | stderr
  /-- The command on the right of the pipe. -/
  | pipe
  | nowhere
  | file (path : String)
  deriving DecidableEq, Repr

/-- The streams of a command. -/
structure Streams where
  input : List UInt8 := []
  output : Sink := .stdout
  errors : Sink := .stderr

/-- What commands leave for the next ones. -/
structure State where
  /-- Variables with their values, newest first. -/
  assigned : List (String × String) := []
  /-- The exit code of the last command. -/
  status : Nat := 0
  files : List (String × List UInt8) := []
  /-- What was written to sinks that are no files, newest first. -/
  written : List (Sink × List UInt8) := []

/-- How a command leaves the shell. -/
inductive Ending where
  | goesOn
  | exited
  | killed
  deriving DecidableEq, Repr

namespace State

/-- The contents of a file. -/
def file? (st : State) (path : String) : Option (List UInt8) :=
  if path = "/dev/null" then some [] else st.files.lookup path

/-- The state with a file set. -/
def setFile (st : State) (path : String) (contents : List UInt8) : State :=
  { st with files := (path, contents) :: st.files.filter (·.1 != path) }

/-- Writes to a sink. -/
def write (st : State) (sink : Sink) (bs : List UInt8) : State :=
  match sink with
  | .nowhere => st
  | .file path => st.setFile path ((st.file? path).getD [] ++ bs)
  | sink => { st with written := (sink, bs) :: st.written }

/-- What was written to a sink that is no file. -/
def textOf (st : State) (sink : Sink) : List UInt8 :=
  (st.written.reverse.filter (·.1 == sink)).flatMap (·.2)

/-- Complains in the name of the shell. -/
def complain (st : State) (streams : Streams) (text : String) : State :=
  st.write streams.errors (octets ("sh: 1: " ++ text ++ "\n"))

/-- The process number of the shell, which nothing but signals to itself can depend on. -/
def processId : String := "2"

/-- The value of a parameter; one that is not set is empty. -/
def parameter (st : State) (name : String) : String :=
  if name = "$" then processId
  else if name = "?" then Text.decimal st.status
  else if name = "#" then "0"
  else if name = "0" then "sh"
  else (st.assigned.lookup name).getD ""

end State

/-! ### Words -/

/-- The characters of a word with its parameters replaced, each with whether it may separate
words. -/
def expandPieces (st : State) : List Piece → List (Char × Bool)
  | [] => []
  | .char c _ :: pieces => (c, false) :: expandPieces st pieces
  | .parameter name quoted :: pieces =>
    ((st.parameter name).toList.map fun c =>
      (c, !quoted && (c == ' ' || c == '\t' || c == '\n'))) ++ expandPieces st pieces

/-- The text of a word that cannot fall apart. -/
def expandWord (st : State) (w : Word) : String :=
  .ofList ((expandPieces st w.pieces).map (·.1))

/-- The runs of characters that do not separate words. -/
def cutFields : List (Char × Bool) → List (List Char)
  | [] => [[]]
  | (c, separates) :: cs =>
    if separates then [] :: cutFields cs
    else
      match cutFields cs with
      | [] => [[c]]
      | field :: fields => (c :: field) :: fields

/-- The words that a word stands for. -/
def fields (st : State) (w : Word) : List String :=
  match (cutFields (expandPieces st w.pieces)).filter (!·.isEmpty) with
  | [] => if w.hasQuotes then [""] else []
  | fs => fs.map String.ofList

/-- The name and the value of a word that sets a variable. -/
def assignment? (w : Word) : Option (String × Word) :=
  let name := w.pieces.takeWhile fun
    | .char c false => isNameChar c
    | _ => false
  let text := name.filterMap fun
    | .char c _ => some c
    | .parameter .. => none
  match text, w.pieces.drop name.length with
  | c :: cs, .char '=' false :: value =>
    if c.isDigit then none else some (.ofList (c :: cs), { w with pieces := value })
  | _, _ => none

/-! ### Utilities -/

/-- What a utility does. -/
structure Effect where
  status : Nat := 0
  output : List UInt8 := []
  errors : List UInt8 := []
  ending : Ending := .goesOn

/-- A utility that only has an exit code. -/
def Effect.ofStatus (status : Nat) : Effect := { status }

/-- A utility that answers a question. -/
def Effect.ofBool (b : Bool) : Effect := .ofStatus (if b then 0 else 1)

/-- A utility that complains. -/
def Effect.complaint (status : Nat) (text : String) : Effect :=
  { status, errors := octets (text ++ "\n") }

/-- Ends the shell with a code of eight bits, the last one if none is given. -/
def exitShell (st : State) : List String → Effect
  | [] => { status := st.status, ending := .exited }
  | code :: _ =>
    if !code.isEmpty && code.toList.all Text.isDigit then
      { status := (takeNumber code.toList).1 % 256, ending := .exited }
    else { Effect.complaint 2 ("sh: 1: exit: Illegal number: " ++ code) with ending := .exited }

/-- Sends a signal. Only the shell itself is there to get one, and signal zero does nothing. -/
def sendSignal (arguments : List String) : Effect :=
  let (signal, targets) :=
    match arguments with
    | "-s" :: name :: targets => (name, targets)
    | first :: targets =>
      match first.toList with
      | '-' :: name => (String.ofList name, targets)
      | _ => ("TERM", arguments)
    | [] => ("TERM", [])
  if targets.contains State.processId then
    if signal = "0" then {} else { ending := .killed }
  else .complaint 1 "sh: 1: kill: No such process"

/-- Prints files, or the input if none is given. -/
def concatenate (st : State) (input : List UInt8) : List String → Effect
  | [] => { output := input }
  | paths =>
    paths.foldl (fun effect path =>
      match if path = "-" then some input else st.file? path with
      | some bs => { effect with output := effect.output ++ bs }
      | none =>
        { effect with
          status := 1
          errors := effect.errors ++ octets ("cat: " ++ path ++ ": No such file or directory\n") })
      {}

/-- Whether a file is there. -/
def fileExists (st : State) (path : String) : Bool :=
  (st.file? path).isSome || path == "/" || path == "/tmp" || path == "/dev"

/-- Compares two numbers. -/
def compareNumbers (left right : String) (holds : Int → Int → Bool) : Effect :=
  match Text.readInt64 left.toList, Text.readInt64 right.toList with
  | .ok a, .ok b => .ofBool (holds a b)
  | .ok _, .error _ => .complaint 2 ("sh: 1: test: Illegal number: " ++ right)
  | .error _, _ => .complaint 2 ("sh: 1: test: Illegal number: " ++ left)

/-- A test of texts, numbers or files. -/
def testCondition (st : State) : List String → Effect
  | [] => .ofBool false
  | [text] => .ofBool (!text.isEmpty)
  | ["!", text] => .ofBool text.isEmpty
  | ["-n", text] => .ofBool (!text.isEmpty)
  | ["-z", text] => .ofBool text.isEmpty
  | ["-e", path] => .ofBool (fileExists st path)
  | ["-f", path] => .ofBool ((st.files.lookup path).isSome)
  | ["-d", path] => .ofBool (fileExists st path && (st.file? path).isNone)
  | ["-c", path] => .ofBool (path == "/dev/null")
  | [left, "=", right] => .ofBool (left == right)
  | [left, "!=", right] => .ofBool (left != right)
  | [left, "-eq", right] => compareNumbers left right fun a b => a == b
  | [left, "-ne", right] => compareNumbers left right fun a b => a != b
  | [left, "-lt", right] => compareNumbers left right fun a b => decide (a < b)
  | [left, "-le", right] => compareNumbers left right fun a b => decide (a ≤ b)
  | [left, "-gt", right] => compareNumbers left right fun a b => decide (b < a)
  | [left, "-ge", right] => compareNumbers left right fun a b => decide (b ≤ a)
  | left :: _ => .complaint 2 ("sh: 1: test: " ++ left ++ ": unexpected operator")

/-- What a printing utility does, with the wording of its complaints. -/
def Effect.ofPrinted (wording : String → String) (p : Printed) : Effect where
  status := if p.complaints.isEmpty then 0 else 1
  output := p.octets
  errors := octets (String.join (p.complaints.map fun text => wording text ++ "\n"))

/-- The utilities that are no part of the shell. -/
def external? (st : State) (name : String) (arguments : List String) (input : List UInt8) :
    Option Effect :=
  match name with
  | "true" => some {}
  | "false" => some (.ofStatus 1)
  | "sleep" => some {}
  | "cat" => some (concatenate st input arguments)
  | "echo" => some (.ofPrinted id (echoPlain arguments))
  | "printf" =>
    match arguments with
    | [] => some (.complaint 1 "printf: missing operand")
    | format :: arguments =>
      some (.ofPrinted (fun text => "printf: '" ++ text ++ "': expected a numeric value")
        (printf format arguments))
  | _ => none

/-- The name of a program that is in one of the usual directories, or given without any. -/
def programName? (path : String) : Option String :=
  match Text.splitBy (· == '/') path.toList with
  | [name] => some (.ofList name)
  | [[], ['b', 'i', 'n'], name] => some (.ofList name)
  | [[], ['u', 's', 'r'], ['b', 'i', 'n'], name] => some (.ofList name)
  | _ => none

/-- The utilities. -/
def utility (st : State) (name : String) (arguments : List String) (input : List UInt8) : Effect :=
  match name with
  | ":" => {}
  | "echo" => .ofPrinted id (echo arguments)
  | "printf" =>
    match arguments with
    | [] => .complaint 2 "sh: 1: printf: usage: printf format [arg ...]"
    | format :: arguments =>
      .ofPrinted (fun text => "sh: 1: printf: " ++ text ++ ": expected numeric value")
        (printf format arguments)
  | "exit" => exitShell st arguments
  | "kill" => sendSignal arguments
  | "test" => testCondition st arguments
  | "[" =>
    if arguments.getLast? = some "]" then testCondition st arguments.dropLast
    else .complaint 2 "sh: 1: [: missing ]"
  | name =>
    match (programName? name).bind fun program => external? st program arguments input with
    | some effect => effect
    | none => .complaint 127 ("sh: 1: " ++ name ++ ": not found")

/-! ### Redirections -/

/-- Whether a file can be made at a path: there are no directories but the usual ones. -/
def canCreate (path : String) : Bool :=
  match Text.splitBy (· == '/') path.toList with
  | [name] => !name.isEmpty
  | [['.'], name] => !name.isEmpty
  | [[], ['t', 'm', 'p'], name] => !name.isEmpty
  | _ => false

/-- The sink of a path. -/
def sinkOf (streams : Streams) (path : String) : Sink :=
  if path = "/dev/null" then .nowhere
  else if path = "/dev/stdout" then streams.output
  else if path = "/dev/stderr" then streams.errors
  else .file path

/-- The streams with one of them going somewhere else. -/
def setSink (streams : Streams) (descriptor : Nat) (sink : Sink) : Streams :=
  if descriptor = 1 then { streams with output := sink }
  else if descriptor = 2 then { streams with errors := sink }
  else streams

/-- Redirects a stream, unless there is something to complain about. -/
def redirect (st : State) (streams : Streams) (r : Redirect) :
    Except String (State × Streams) :=
  let target := expandWord st r.target
  match r.redirection with
  | .read =>
    match st.file? target with
    | some bs => .ok (st, if r.descriptor = 0 then { streams with input := bs } else streams)
    | none => .error ("cannot open " ++ target ++ ": No such file")
  | .copy =>
    match target with
    | "1" => .ok (st, setSink streams r.descriptor streams.output)
    | "2" => .ok (st, setSink streams r.descriptor streams.errors)
    | "-" => .ok (st, setSink streams r.descriptor .nowhere)
    | "0" => .ok (st, streams)
    | target => .error ("Syntax error: Bad fd number: " ++ target)
  | .write | .append =>
    match sinkOf streams target with
    | .file path =>
      if canCreate path then
        let old := if r.redirection = .append then (st.file? path).getD [] else []
        .ok (st.setFile path old, setSink streams r.descriptor (.file path))
      else .error ("cannot create " ++ path ++ ": Directory nonexistent")
    | sink => .ok (st, setSink streams r.descriptor sink)

/-- Redirects streams in turn. -/
def redirectAll (st : State) (streams : Streams) : List Redirect → Except String (State × Streams)
  | [] => .ok (st, streams)
  | r :: rs =>
    match redirect st streams r with
    | .ok (st, streams) => redirectAll st streams rs
    | .error text => .error text

/-- Runs something with streams redirected. -/
def withRedirects (st : State) (streams : Streams) (redirects : List Redirect)
    (body : State → Streams → State × Ending) : State × Ending :=
  match redirectAll st streams redirects with
  | .ok (st, streams) => body st streams
  | .error text => ({ st.complain streams text with status := 2 }, .goesOn)

/-! ### Commands -/

/-- Sets the variables that words in front of a command set, and gives the words behind them. -/
def assign (st : State) : List Word → State × List Word
  | [] => (st, [])
  | w :: ws =>
    match assignment? w with
    | some (name, value) =>
      let value := expandWord st value
      assign { st with assigned := (name, value) :: st.assigned } ws
    | none => (st, w :: ws)

/-- Runs a command. Variables set in front of a command do not outlast it. -/
def SimpleCommand.run (c : SimpleCommand) (st : State) (streams : Streams) : State × Ending :=
  let (set, words) := assign st c.words
  withRedirects set streams c.redirects fun st' streams =>
    match words.flatMap (fields st) with
    | [] => ({ st' with status := 0 }, .goesOn)
    | name :: arguments =>
      let effect := utility st name arguments streams.input
      let st' := (st'.write streams.output effect.output).write streams.errors effect.errors
      ({ st' with status := effect.status, assigned := st.assigned }, effect.ending)

/-- What is left of an isolated shell: its output, files and exit code. -/
def isolate (outer : State) : State × Ending → State × Ending
  | (st, ending) =>
    ({ st with assigned := outer.assigned }, if ending = .killed then .killed else .goesOn)

/-- Runs a command line. -/
def Tree.run (st : State) (streams : Streams) : Tree → State × Ending
  | .nothing => (st, .goesOn)
  | .simple c => c.run st streams
  | .group isolated body redirects =>
    withRedirects st streams redirects fun st streams =>
      if isolated then isolate st (body.run st streams) else body.run st streams
  | .pipe left right =>
    let outerPipe := st.written.filter (·.1 == .pipe)
    let inner := { st with written := st.written.filter (·.1 != .pipe) }
    let (afterLeft, ending) := isolate st (left.run inner { streams with output := .pipe })
    let through := afterLeft.textOf .pipe
    let rest := afterLeft.written.filter (·.1 != .pipe)
    let st := { afterLeft with written := rest ++ outerPipe }
    if ending = .killed then (st, .killed)
    else isolate st (right.run st { streams with input := through })
  | .chain ifOk left right =>
    let (st, ending) := left.run st streams
    if ending ≠ .goesOn then (st, ending)
    else if (st.status == 0) == ifOk then right.run st streams
    else (st, .goesOn)
  | .invert body =>
    let (st, ending) := body.run st streams
    ({ st with status := if st.status = 0 then 1 else 0 }, ending)
  | .sequence first second =>
    let (st, ending) := first.run st streams
    if ending ≠ .goesOn then (st, ending) else second.run st streams

end TtpConformance.Shell
