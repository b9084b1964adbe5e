import TtpConformance.CommandLine.Flags
import TtpConformance.Cross.Settings
import TtpConformance.Double.Literal
import TtpConformance.Options

/-!
# Invocations

The command line of the harness: one run, or a cross run over the lab. A settings file can be
named in front of the command and behind it; the latter counts.

## Main definitions

* `Invocation` — what a command line asks for.
* `runFlags`, `crossFlags` — the flags of the two commands.
* `Invocation.parse` — reads arguments.
-/

namespace TtpConformance.CommandLine

/-- What is asked for. -/
inductive Task where
  | run (options : RunOptions)
  | cross (options : CrossOptions) (quiet : Bool)

/-- Whether a cross run is asked for. -/
def Task.isCross : Task → Bool
  | .run _ => false
  | .cross .. => true

/-- A command line. -/
structure Invocation where
  task : Task
  /-- How much is logged. -/
  verbosity : UInt8
  /-- The path of the settings file, if one is named. -/
  config : Option String

/-! ### Values -/

/-- A value that cannot be read is a bad one. -/
def orBad {α ε : Type} : Except ε α → Except UsageError α
  | .ok a => .ok a
  | .error _ => .error .badValue

/-- A number from zero to `bound`. -/
def readCount (bound : Nat) (text : String) : Except UsageError Nat :=
  match Text.readInt64 text.toList with
  | .ok n => if 0 ≤ n ∧ n.toNat ≤ bound then .ok n.toNat else .error .badValue
  | .error _ => .error .badValue

/-- A number of eight bits. -/
def readOctet (text : String) : Except UsageError UInt8 := (readCount 255 text).map UInt8.ofNat

/-- A number with a fraction. -/
def readDouble (text : String) : Except UsageError Double :=
  match Double.read? text.toList with
  | some d => .ok d
  | none => .error .badValue

/-- A path, which is not empty. -/
def readPath (text : String) : Except UsageError String :=
  if text.isEmpty then .error .missingValue else .ok text

/-- One more, up to the greatest number of eight bits. -/
def addOne (n : UInt8) : UInt8 := if n = 255 then n else n + 1

/-- A flag that takes a value. -/
def valueFlag {α β : Type} (name : String) (letter : Option Char)
    (read : String → Except UsageError β) (set : β → α → α) : Flag α where
  name := name
  letter := letter
  action := .value false fun text => (read text).map set

/-- A switch. -/
def switch {α : Type} (name : String) (letter : Option Char) (set : α → α) : Flag α where
  name := name
  letter := letter
  action := .switch set

/-- The flags that every command has. -/
def commonFlags {α : Type} (setConfig : String → α → α) : List (Flag α) :=
  [valueFlag "config" none readPath setConfig,
   { name := "help", letter := some 'h', action := .help },
   { name := "version", letter := some 'V', action := .version }]

/-! ### One run -/

/-- What the arguments of a run say. -/
structure RunArguments where
  options : RunOptions := {}
  verbosity : UInt8 := 0
  config : Option String := none

/-- Changes the options. -/
def RunArguments.set (f : RunOptions → RunOptions) (a : RunArguments) : RunArguments :=
  { a with options := f a.options }

/-- A flag of a run that takes a value. -/
def runValue {β : Type} (name : String) (letter : Option Char)
    (read : String → Except UsageError β) (set : β → RunOptions → RunOptions) :
    Flag RunArguments :=
  valueFlag name letter read fun b => .set (set b)

/-- A switch of a run. -/
def runSwitch (name : String) (set : RunOptions → RunOptions) : Flag RunArguments :=
  switch name none (.set set)

/-- The flags of a run. Only the number of repetitions may be a negative number of its own. -/
def runFlags : List (Flag RunArguments) :=
  [runValue "target" (some 't') .ok fun v o => { o with target := some v },
   runValue "self-dev" none .ok fun v o => { o with selfDevice := some v },
   runValue "peer-dev" none .ok fun v o => { o with peerDevice := some v },
   runValue "vci" none readOctet fun v o => { o with channel := some v },
   runSwitch "use-gw" fun o => { o with useGateway := true },
   runSwitch "ipv4" fun o => { o with ipv4 := true },
   runValue "prefix" none (orBad ∘ Ipv4Network.parse) fun v o => { o with network := some v },
   runValue "self-prefix" none (orBad ∘ Ipv4Network.parse)
     fun v o => { o with selfNetwork := some v },
   runValue "peer-prefix" none (orBad ∘ Ipv4Network.parse)
     fun v o => { o with peerNetwork := some v },
   runValue "self-nhmac" none (orBad ∘ Mac.parse) fun v o => { o with selfNextHop := some v },
   runValue "peer-nhmac" none (orBad ∘ Mac.parse) fun v o => { o with peerNextHop := some v },
   runValue "drop-pct" none readOctet fun v o => { o with dropPercent := some v },
   runValue "sleep" none readDouble fun v o => { o with sleep := some v },
   runSwitch "no-unload" fun o => { o with keepLoaded := true },
   runSwitch "no-load" fun o => { o with noLoad := true },
   runSwitch "no-traffic" fun o => { o with noTraffic := true },
   { name := "traffic"
     action := .value true fun text =>
       (orBad (Text.readInt64 text.toList)).map fun v =>
         .set fun o => { o with traffic := some v } },
   runSwitch "no-packet" fun o => { o with noPacket := true },
   runSwitch "no-remote" fun o => { o with noRemote := true },
   { name := "verbose", letter := some 'v'
     action := .count fun a => { a with verbosity := addOne a.verbosity } }] ++
  commonFlags fun path a => { a with config := some path }

/-- The greatest verbosity of the module. -/
def maxModuleVerbosity : UInt8 := 3

/-- The invocation of a run. -/
def RunArguments.invocation (a : RunArguments) : Invocation where
  task := .run { a.options with verbose := min a.verbosity maxModuleVerbosity }
  verbosity := a.verbosity
  config := a.config

/-! ### A cross run -/

/-- What the arguments of a cross run say. -/
structure CrossArguments where
  options : CrossOptions := {}
  quiet : Bool := false
  verbosity : UInt8 := 0
  config : Option String := none

/-- Changes the options. -/
def CrossArguments.set (f : CrossOptions → CrossOptions) (a : CrossArguments) : CrossArguments :=
  { a with options := f a.options }

/-- A switch of a cross run. -/
def crossSwitch (name : String) (letter : Char) (set : CrossOptions → CrossOptions) :
    Flag CrossArguments :=
  switch name (some letter) (.set set)

/-- The flags of a cross run. -/
def crossFlags : List (Flag CrossArguments) :=
  [crossSwitch "all" 'a' fun o => { o with all := true },
   crossSwitch "dry-run" 'd' fun o => { o with dryRun := true },
   crossSwitch "ipv4" 'i' fun o => { o with ipv4 := true },
   crossSwitch "min" 'm' fun o => { o with min := true },
   valueFlag "num" (some 'n') (readCount (UInt32.size - 1)) fun n =>
     .set fun o => { o with rounds := some (UInt32.ofNat n) },
   switch "quiet" (some 'q') fun a => { a with quiet := true },
   crossSwitch "serial" 's' fun o => { o with serial := true },
   crossSwitch "uba" 'b' fun o => { o with uba := true },
   crossSwitch "utm" 'u' fun o => { o with utm := true },
   valueFlag "wait" (some 'w') (fun text => orBad (Text.readUInt64 text.toList)) fun n =>
     .set fun o => { o with wait := some (.ofSeconds n) },
   { name := "verbose", letter := some 'v'
     action := .count fun a => { a with verbosity := addOne a.verbosity } }] ++
  commonFlags fun path a => { a with config := some path }

/-- The invocation of a cross run. -/
def CrossArguments.invocation (a : CrossArguments) : Invocation where
  task := .cross a.options a.quiet
  verbosity := a.verbosity
  config := a.config

/-! ### All commands -/

/-- The names of the commands. -/
def commandNames : List String := ["run", "cross", "help"]

/-- Help for no command or for one. -/
def helpFor : List String → UsageError
  | [] => .helpWanted
  | [name] => if commandNames.contains name then .helpWanted else .unknownCommand
  | _ => .unknownCommand

/-- The flags in front of a command. -/
def outerFlags : List (Flag (Option String)) := commonFlags fun path _ => some path

namespace Invocation

/-- Reads the arguments of a command. -/
def ofCommand (name : String) (arguments : List String) : Except UsageError Invocation :=
  if name = "run" then
    (readAll runFlags {} arguments).map fun st => st.result.invocation
  else if name = "cross" then
    (readAll crossFlags {} arguments).map fun st => st.result.invocation
  else .error (helpFor arguments)

/-- Reads arguments. -/
def parse (arguments : List String) : Except UsageError Invocation := do
  let (outer, command?) ←
    Scan.arguments outerFlags commandNames false { result := none } arguments
  match command? with
  | some (name, rest) =>
    let inner ← ofCommand name rest
    let outer ← outer.settle
    return { inner with config := inner.config <|> outer.result }
  | none =>
    let outer ← outer.settle
    .error (if outer.given.isEmpty then .nothingGiven else .missingCommand)

end Invocation

end TtpConformance.CommandLine
