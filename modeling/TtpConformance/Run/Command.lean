import TtpConformance.Frame.Generator

/-!
# Commands

Everything that a run does to a node is one of a few commands, each of which is a shell command
line on that node. The commands are data, so that what a run may do can be said of the commands
and not of their text.

## Main definitions

* `Host` — where a command runs.
* `Command` — what it does; `Command.script` is its text.
* `Output` — what a finished command leaves.
-/

namespace TtpConformance

/-- Where a command runs. -/
inductive Host where
  /-- The node that the harness runs on. -/
  | self
  /-- Another node, by its host name. -/
  | remote (name : String)
  deriving DecidableEq, Repr

/-- The name of a host in messages. -/
def Host.text : Host → String
  | .self => "local"
  | .remote name => name

/-- The output of a finished command. -/
structure Output where
  /-- The exit code; -1 when a signal ended the command. -/
  exitCode : Int := 0
  stdout : String := ""
  stderr : String := ""
  deriving DecidableEq, Repr

/-- Whether the command ended with exit code zero. -/
def Output.succeeded (o : Output) : Bool := o.exitCode == 0

/-- What a run does on a node. -/
inductive Command where
  /-- Asks for the host name. -/
  | hostname
  /-- Asks for the hardware address of a device. -/
  | linkInfo (device : String)
  /-- Asks for the IPv4 addresses of a device. -/
  | addressInfo (device : String)
  /-- Tests that a path is a character device if there is anything. -/
  | testCharDevice (path : String)
  /-- Tests that a network device is there. -/
  | testLink (device : String)
  /-- Tests that a program can be found. -/
  | testProgram (program : String)
  /-- Loads a kernel module. -/
  | loadModule (path : String) (arguments : List String)
  /-- Unloads a kernel module. -/
  | unloadModule (name : String)
  /-- Prints a file. -/
  | readFile (path : String)
  /-- Writes a line to a file. -/
  | writeFile (path value : String)
  /-- Writes the contents of a file to another path. -/
  | copyFile (source destination : String)
  /-- Tests that two files are equal. -/
  | compareFiles (left right : String)
  /-- Writes a text without a line end to a file. -/
  | writeText (path text : String)
  /-- Sends frames. -/
  | sendFrames (call : Generator)
  /-- A command line of somebody else. -/
  | shell (script : String)
  deriving DecidableEq

/-- The command line of a command. -/
def Command.script : Command → String
  | .hostname => "uname -n"
  | .linkInfo device => "ip -j link show dev " ++ device
  | .addressInfo device => "ip -j -4 addr show dev " ++ device
  | .testCharDevice path => "test ! -e " ++ path ++ " || test -c " ++ path
  | .testLink device => "ip link show dev " ++ device ++ " > /dev/null"
  | .testProgram program => "command -v " ++ program ++ " > /dev/null"
  | .loadModule path arguments => "sudo insmod " ++ path ++ " " ++ " ".intercalate arguments
  | .unloadModule name => "sudo rmmod " ++ name
  | .readFile path => "cat " ++ path
  | .writeFile path value => "echo " ++ value ++ " > " ++ path
  | .copyFile source destination => "cat " ++ source ++ " > " ++ destination
  | .compareFiles left right => "cmp -s " ++ left ++ " " ++ right
  | .writeText path text => "echo -n " ++ text ++ " > " ++ path
  | .sendFrames call => call.script
  | .shell script => script

end TtpConformance
