import TtpConformance.CommandLine.Execute
import TtpConformance.Lab.Basic

/-!
# The harness on the command line

Reads settings, runs a command line in the lab in memory, and prints what it leaves. The commands
of the run thus reach no real node: this is a rehearsal that shows what a run would do and how it
would end.
-/

namespace TtpConformance

/-- The variables of the environment that give settings. -/
def settingVariables : IO (List (String × String)) :=
  Settings.variableNames.filterMapM fun name => do
    return (← IO.getEnv name).map (name, ·)

/-- The paths of the settings files that are looked for if none is named. -/
def usualFiles : IO (List String) := do
  let user := (← IO.getEnv "HOME").map (· ++ "/.config/ttp-harness/config.toml")
  return "/etc/ttp-harness/config.toml" :: user.toList

/-- The texts of those files that are there. -/
def presentFiles (paths : List String) : IO (List String) :=
  paths.filterMapM fun (path : String) => do
    try return some (← IO.FS.readFile path)
    catch _ => return none

/-- The settings files that arguments name, or the usual ones. -/
def settingsPaths (arguments : List String) : IO (List String) :=
  match CommandLine.Invocation.parse arguments with
  | .ok { config := some path, .. } => return [path]
  | _ => usualFiles

/-- A number that differs from run to run. -/
def seed : IO UInt64 := do
  let octets ← IO.getRandomBytes 8
  return octets.toList.foldl (fun n b => n * 256 + b.toUInt64) 0

/-- Prints what a command line leaves. -/
def report (outcome : CommandLine.Outcome) : IO UInt32 := do
  let stdout ← IO.getStdout
  let stderr ← IO.getStderr
  outcome.stdout.forM stdout.putStrLn
  outcome.stderr.forM stderr.putStrLn
  return outcome.exitCode.toUInt32

end TtpConformance

open TtpConformance

/-- Runs a command line in the lab. -/
def main (arguments : List String) : IO UInt32 := do
  let settings :=
    Settings.load (← presentFiles (← settingsPaths arguments)) (← settingVariables)
  let program :=
    CommandLine.executeArguments .splitMix (← seed) (fun _ => settings) arguments
  let lab := Lab.initial (settings.toOption.getD {}) "node-0a"
  match (program.runIn Lab.world lab).1 with
  | some outcome => report outcome
  | none => return 1
