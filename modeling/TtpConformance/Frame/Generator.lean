import TtpConformance.Frame.Basic

/-!
# Sending frames

A call of the frame generator that sends copies of one frame. Data frames go out five times with
pauses, control frames once.

The call is a shell command line. Macro values stand in double quotes. The payload reaches the
generator in double quotes of its own, which are escaped, and as one word, so its spaces are
escaped too.

## Main definitions

* `Generator` — a call.
* `Generator.ofFrame` — the call with the usual number of copies.
* `Generator.script` — the command line.
-/

namespace TtpConformance

/-- The template's file name in the directory of test files. -/
def templateFile : String := "ttp_common.cfg"

/-- A call of the frame generator. -/
structure Generator where
  /-- The generator's program. -/
  program : String
  /-- The device that sends. -/
  device : String
  /-- The template's path. -/
  template : String
  /-- How many copies are sent. -/
  count : Nat
  /-- The pause between copies. -/
  interval : Option Duration
  frame : Frame
  deriving DecidableEq

namespace Generator

/-- A call with the usual number of copies of a frame. -/
def ofFrame (program device template : String) (frame : Frame) : Generator :=
  let (count, interval) :=
    match frame.opcode with
    | .payload => (5, some (Duration.ofMillis 100))
    | .openRequest | .closeRequest => (1, none)
  { program, device, template, count, interval, frame }

/-- A text with a backslash before each space. -/
def escapeSpaces (cs : List Char) : List Char :=
  cs.flatMap fun c => if c = ' ' then ['\\', ' '] else [c]

/-- The option that gives a macro its value. -/
def defineOption (name value : String) : String :=
  " -D " ++ name ++ "=\"" ++ value ++ "\""

/-- The option for the pause between copies. -/
def intervalOption (interval : Option Duration) : String :=
  match interval with
  | some d => " -t " ++ Text.decimal d.millis ++ "ms"
  | none => ""

/-- The option that gives the payload. -/
def payloadOption (payload : String) : String :=
  " -D PAYLOAD=\\\"" ++ .ofList (escapeSpaces payload.toList) ++ "\\\""

/-- The command line of a call. -/
def script (g : Generator) : String :=
  "cd /tmp; sudo " ++ g.program ++ " -p -o " ++ g.device ++ " -i " ++ g.template ++
    " -n " ++ Text.decimal g.count ++ intervalOption g.interval ++
    String.join (g.frame.defines.map fun (name, value) => defineOption name value) ++
    payloadOption g.frame.opcode.text ++ " > /dev/null"

end Generator

end TtpConformance
