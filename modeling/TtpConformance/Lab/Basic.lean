import TtpConformance.Lock.Directory
import TtpConformance.Settings.Basic
import TtpConformance.Text.Lines

/-!
# The lab in memory

Surroundings for whole runs without any node: files by host and path, answers to commands, the
locks that are taken, and a log of everything that happened. The lab knows just enough of the
command lines to keep files, to let payloads cross from one debug device to the other, and to
answer what a run asks about the local node. Rules that are looked at first can make any command
answer in any other way.

## Main definitions

* `Lab` — the state.
* `Lab.Rule` — a prepared answer.
* `Lab.answer` — what a command line does.
* `Lab.world` — the lab as surroundings of programs.
-/

namespace TtpConformance

namespace Lab

/-- How a prepared answer ends. -/
inductive Reaction where
  /-- The command runs. -/
  | exit (output : Output)
  /-- The command cannot be started. -/
  | notStarted (reason : String)
  /-- The task that runs the command dies. -/
  | die
  deriving DecidableEq, Repr

/-- A prepared answer to some command lines. -/
structure Rule where
  /-- The host, or any host. -/
  host : Option String
  /-- How the command line starts. -/
  start : String
  /-- Whether that is the whole command line. -/
  isWhole : Bool
  /-- How many hits are let pass. -/
  passing : Nat
  /-- How many hits after those are answered; all of them if not given. -/
  answering : Option Nat
  reaction : Reaction
  /-- How often the rule was hit. -/
  hits : Nat := 0
  deriving DecidableEq, Repr

/-- Whether a rule is about a command line. -/
def Rule.isHit (r : Rule) (host : String) (script : List Char) : Bool :=
  (r.host.isNone || r.host == some host) &&
    if r.isWhole then script == r.start.toList else r.start.toList.isPrefixOf script

/-- Whether a rule answers its hit of the given number, counted from one. -/
def Rule.answers (r : Rule) (hit : Nat) : Bool :=
  r.passing < hit &&
    match r.answering with
    | some n => hit ≤ r.passing + n
    | none => true

/-- Where a file is. -/
abbrev Place := String × String

/-- Puts a value under a key. -/
def put {α : Type} (key : Place) (value : α) (entries : List (Place × α)) :
    List (Place × α) :=
  (key, value) :: entries.filter (·.1 != key)

end Lab

/-- The lab. -/
structure Lab where
  /-- The name of the local node. -/
  hostname : String := "node-01"
  /-- The hardware address of its devices. -/
  mac : String := "98:ed:5c:00:00:01"
  /-- The IPv4 address of its devices. -/
  ip : String := "10.0.0.1"
  /-- The name of the peer. -/
  peer : String := "node-0a"
  /-- The path of the debug device on every node. -/
  debugDevice : String
  files : List (Lab.Place × String) := []
  /-- Successive contents of files, used up by reading. -/
  queues : List (Lab.Place × List String) := []
  rules : List Lab.Rule := []
  /-- Hosts from which no payload crosses. -/
  silent : List String := []
  /-- Owners of locks that are taken. -/
  held : List String := []
  /-- Owners of locks that cannot be given back. -/
  stuck : List String := []
  /-- What happened, newest first. -/
  log : List String := []

namespace Lab

/-- The paths and contents of a node's files at first, but for the tag table. -/
def nodeFiles (settings : Settings) : List (String × String) :=
  [(settings.param "tag_seq", "1\n"),
   (settings.param "stats", "skb_ct: 0\nskb_rx: 3\n"),
   (settings.param "nhmac", "00:00:00:00:00:00\n")] ++
  ["greet", "500", "1000", "2000", "3000", "4000"].map fun name =>
    (settings.testFile name, "payload " ++ name ++ "\n")

/-- The first line of a tag table. -/
def tagHeader : String := " kid  state        seq       tx       rx  peer\n"

/-- The local tag table at first. -/
def selfTags : String :=
  tagHeader ++
  "   1  CLOSED         1        3        2  98:ed:5c:00:00:0a\n" ++
  "   2  CLOSED         1        4        3  98:ed:5c:00:00:0a\n" ++
  "   3  CLOSED         2        4        3  98:ed:5c:00:00:0a\n" ++
  "   4  CLOSED         3        4        3  98:ed:5c:00:00:0a\n"

/-- The peer's tag table at first. -/
def peerTags : String :=
  tagHeader ++ "   1  CLOSED         1        3        2  98:ed:5c:00:00:01\n"

/-- The lab at first, with a peer of the given name. -/
def initial (settings : Settings) (peer : String) : Lab where
  peer := peer
  debugDevice := settings.debugDevice
  files :=
    ((nodeFiles settings ++ [(settings.tagsPath, selfTags)]).map fun (path, text) =>
      (("local", path), text)) ++
    (nodeFiles settings ++ [(settings.tagsPath, peerTags)]).map fun (path, text) =>
      ((peer, path), text)

/-- The contents of a file. -/
def file? (lab : Lab) (host path : String) : Option String :=
  (lab.files.find? (·.1 == (host, path))).map (·.2)

/-- Writes a file. -/
def writeFile (lab : Lab) (host path text : String) : Lab :=
  { lab with files := put (host, path) text lab.files }

/-- Deletes a file. -/
def deleteFile (lab : Lab) (host path : String) : Lab :=
  { lab with files := lab.files.filter (·.1 != (host, path)) }

/-- Sets the successive contents of a file. -/
def setQueue (lab : Lab) (host path : String) (texts : List String) : Lab :=
  { lab with queues := put (host, path) texts lab.queues }

/-- Adds to the log. -/
def note (lab : Lab) (entry : String) : Lab := { lab with log := entry :: lab.log }

/-- The path that a short form stands for: `param:` and `test:` start names of parameters and test
files, `@tags` is the tag table and `@debug` the debug device. Any other text is the path itself. -/
def longPath (settings : Settings) (text : String) : String :=
  if text = "@tags" then settings.tagsPath
  else if text = "@debug" then settings.debugDevice
  else
    match Text.afterStart "param:".toList text.toList with
    | some name => settings.param (.ofList name)
    | none =>
      match Text.afterStart "test:".toList text.toList with
      | some name => settings.testFile (.ofList name)
      | none => text

/-- Entries with the number of times they stand in a row. -/
def countRuns : List String → List (String × Nat)
  | [] => []
  | entry :: entries =>
    match countRuns entries with
    | (next, n) :: runs =>
      if entry = next then (entry, n + 1) :: runs else (entry, 1) :: (next, n) :: runs
    | [] => [(entry, 1)]

/-- What happened, oldest first. -/
def history (lab : Lab) : List String := lab.log.reverse

/-- What happened, in the order of the texts. -/
def sortedHistory (lab : Lab) : List String := lab.history.mergeSort fun a b => decide (a ≤ b)

/-- The other side of a host. -/
def otherSide (lab : Lab) (host : String) : String := if host = "local" then lab.peer else "local"

/-- What a command line does: how it ends, and the lab after it. -/
abbrev Effect := Reaction × Lab

/-- A command that worked and printed a text. -/
def printed (text : String) (lab : Lab) : Effect := (.exit { stdout := text }, lab)

/-- Reading a file: its next content if some are prepared, or what it holds. -/
def readEffect (lab : Lab) (host path : String) : Effect :=
  match lab.queues.find? (·.1 == (host, path)) with
  | some (_, text :: texts) => printed text (lab.setQueue host path texts)
  | _ =>
    match lab.file? host path with
    | some text => printed text lab
    | none =>
      (.exit { exitCode := 1, stderr := "cat: " ++ path ++ ": No such file or directory" }, lab)

/-- Whether a payload crosses to the other side. -/
def crosses (lab : Lab) (host source destination : String) : Bool :=
  destination == lab.debugDevice && source != "/dev/null" && !lab.silent.contains host

/-- Copying a file, to the other side too if it is a payload for the debug device. -/
def copyEffect (lab : Lab) (host source destination : String) : Effect :=
  let text := (lab.file? host source).getD ""
  let copied := lab.writeFile host destination text
  printed "" <|
    if lab.crosses host source destination then
      copied.writeFile (lab.otherSide host) destination text
    else copied

/-- Comparing two files, which have to be there. -/
def compareEffect (lab : Lab) (host left right : String) : Effect :=
  match lab.file? host left, lab.file? host right with
  | some a, some b => (.exit { exitCode := if a = b then 0 else 1 }, lab)
  | _, _ => (.exit { exitCode := 1 }, lab)

/-- The parts of a command line of the form `word` and more. -/
def afterWord? (word : String) (script : List Char) : Option (List Char) :=
  Text.afterStart word.toList script

/-- The parts of a redirection, behind a first word. -/
def redirection? (word : String) (script : List Char) : Option (String × String) :=
  (afterWord? word script).bind fun rest =>
    (Text.cutAtText " > ".toList rest).map fun (front, back) => (.ofList front, .ofList back)

/-- The files of a comparison. -/
def comparison? (script : List Char) : Option (String × String) :=
  (afterWord? "cmp -s " script).map fun rest =>
    match Text.cutAt ' ' rest with
    | some (left, right) => (.ofList left, .ofList right)
    | none => (.ofList rest, "")

/-- What the local node says about itself. -/
def selfQuery? (lab : Lab) (script : List Char) : Option String :=
  if script = "uname -n".toList then some (lab.hostname ++ "\n")
  else if (afterWord? "ip -j link show dev " script).isSome then
    some ("[\x7b\"address\":\"" ++ lab.mac ++ "\",\"ifname\":\"dev\"\x7d]")
  else if (afterWord? "ip -j -4 addr show dev " script).isSome then
    some ("[\x7b\"addr_info\":[\x7b\"local\":\"" ++ lab.ip ++ "\",\"prefixlen\":8\x7d]\x7d]")
  else none

/-- What a command line does to files. -/
def fileEffect (lab : Lab) (host : String) (script : List Char) : Effect :=
  match comparison? script with
  | some (left, right) => lab.compareEffect host left right
  | none =>
    if (afterWord? "echo -n " script).isSome then printed "" lab
    else
      match redirection? "echo " script with
      | some (value, path) => printed "" (lab.writeFile host path (value ++ "\n"))
      | none =>
        match redirection? "cat " script with
        | some (source, destination) => lab.copyEffect host source destination
        | none =>
          match afterWord? "cat " script with
          | some path => lab.readEffect host (.ofList path)
          | none => printed "" lab

/-- What a command line does if no rule answers it. -/
def plainEffect (lab : Lab) (host : String) (script : List Char) : Effect :=
  match if host = "local" then lab.selfQuery? script else none with
  | some text => printed text lab
  | none => lab.fileEffect host script

/-- The first rule that answers a command line, and the rules with their hits counted. The rules
behind one that answers are not looked at. -/
def applyRules (host : String) (script : List Char) :
    List Rule → Option Reaction × List Rule
  | [] => (none, [])
  | rule :: rules =>
    if rule.isHit host script then
      let hit := rule.hits + 1
      let counted := { rule with hits := hit }
      if rule.answers hit then (some rule.reaction, counted :: rules)
      else
        let (reaction, rules) := applyRules host script rules
        (reaction, counted :: rules)
    else
      let (reaction, rules) := applyRules host script rules
      (reaction, rule :: rules)

/-- Runs a command line. -/
def answer (lab : Lab) (host script : String) : Effect :=
  let lab := lab.note (host ++ "$ " ++ script)
  let (reaction, rules) := applyRules host script.toList lab.rules
  let lab := { lab with rules }
  match reaction with
  | some reaction => (reaction, lab)
  | none => lab.plainEffect host script.toList

/-- The key of a host in the lab. -/
def hostKey (host : Host) : String := host.text

/-- A command that is waited for. A task that dies is like a command that cannot be started. -/
def execute (lab : Lab) (host : Host) (command : Command) : Execution × Lab :=
  match lab.answer (hostKey host) command.script with
  | (.exit output, lab) => (.ok output, lab)
  | (.notStarted reason, lab) => (.error reason, lab)
  | (.die, lab) => (.error "task died", lab)

/-- Commands at the same time: each starts and ends in turn. One whose task dies does not end. -/
def executeAll (lab : Lab) : Nat → List (Host × Command) → List (Nat × Execution) × Lab
  | _, [] => ([], lab)
  | index, (host, command) :: jobs =>
    match lab.answer (hostKey host) command.script with
    | (.exit output, lab) =>
      let (ends, lab) := lab.executeAll (index + 1) jobs
      ((index, .ok output) :: ends, lab)
    | (.notStarted reason, lab) =>
      let (ends, lab) := lab.executeAll (index + 1) jobs
      ((index, .error reason) :: ends, lab)
    | (.die, lab) => lab.executeAll (index + 1) jobs

/-- Takes a lock. -/
def acquire (lab : Lab) (owner : String) : Except RunError Lock × Lab :=
  if lab.held.contains owner then
    (.error (.resourceBusy (owner ++ " already locked")), lab.note ("busy " ++ owner))
  else
    (.ok { path := owner, owner },
      { lab with held := owner :: lab.held }.note ("acquire " ++ owner))

/-- Gives a lock back. -/
def release (lab : Lab) (lock : Lock) : Except RunError Unit × Lab :=
  if lab.stuck.contains lock.owner then
    (.error (.io "stuck"), lab.note ("stuck " ++ lock.owner))
  else
    (.ok (), { lab with held := lab.held.filter (· != lock.owner) }.note ("release " ++ lock.owner))

/-- The lab as surroundings of programs. -/
def world : World Lab
  | .command host command, lab => lab.execute host command
  | .together jobs, lab => lab.executeAll 0 jobs
  | .pause length, lab => ((), lab.note ("sleep " ++ Text.decimal length.nanos))
  | .acquire owner, lab => lab.acquire owner
  | .release lock, lab => lab.release lock

/-- The lab, with locks as files of a directory; pauses and locks are not logged. -/
def worldWithLocks : World (Lab × LockDirectory)
  | .command host command, (lab, locks) =>
    let (reply, lab) := lab.execute host command
    (reply, lab, locks)
  | .together jobs, (lab, locks) =>
    let (reply, lab) := lab.executeAll 0 jobs
    (reply, lab, locks)
  | .pause _, state => ((), state)
  | .acquire owner, (lab, locks) =>
    let (reply, locks) := locks.acquire owner
    (reply, lab, locks)
  | .release lock, (lab, locks) =>
    let (reply, locks) := locks.release lock
    (reply, lab, locks)

end Lab

end TtpConformance
