import TtpConformance.Module.Activation
import TtpConformance.Run.Poll
import TtpConformance.Run.Step

/-!
# Controlling the kernel module

Loading the module is one command with all its arguments. After that it is controlled through the
files of its parameters. The module derives its routes again whenever a target is written, so the
order of writes matters: the channel comes before the target, with a gateway the gateway's address
is known and switched on before the target, and with IPv4 the next hop follows from the target.

## Main definitions

* `Module.load`, `Module.unload` — bringing the module up and down.
* `Module.setTarget`, `Module.resolveGateway`, `Module.enableGateway` — its routes.
* `Module.configureSelf` — the local module, from loaded to addressed.
-/

namespace TtpConformance

/-- A next hop that the module has published. -/
structure Gateway where
  /-- Its address, which is not zero. -/
  nextHop : Mac
  /-- The attempts that it took. -/
  attempts : Nat
  deriving DecidableEq, Repr

namespace Module

/-- The names of the module's parameters. -/
def targetParam : String := "target"

/-- The virtual channel. -/
def channelParam : String := "vci"

/-- The address of the next hop. -/
def nextHopParam : String := "nhmac"

/-- The switch for gateway routing in native mode. -/
def useGatewayParam : String := "use_gw"

/-- The counters, as text. -/
def statsParam : String := "stats"

/-- The tag sequence number from which exchanges are counted. -/
def tagSequenceParam : String := "tag_seq"

/-- The parameters that show the routing of IPv4: prefix, own address and peer address. -/
def ipv4Params : List String := ["prefix", "ipv4_sip", "ipv4_dip"]

variable (settings : Settings)

/-- The reason for a failed load: what the command wrote, or that it failed. -/
def loadFailure (output : Output) : String :=
  let reason := Text.trimmed output.stderr
  if reason.isEmpty then "insmod failed" else reason

/-- Loads the module. -/
def load (host : Host) (activation : Activation) : Step Unit := do
  let output ← Step.execute host (.loadModule settings.modulePath activation.arguments)
  if output.succeeded then return ()
  else throw (.moduleLoad host.text (loadFailure output))

/-- Unloads the module. Whether that works makes no difference. -/
def unload (host : Host) : Program Unit :=
  discard (Program.request (.command host (.unloadModule settings.moduleName)))

/-- The value of a parameter. -/
def readParam (host : Host) (name : String) : Step String := do
  return Text.trimmed (← Step.fileText host (settings.param name))

/-- Sets a parameter. -/
def writeParam (host : Host) (name value : String) : Step Unit :=
  Step.writeFile host (settings.param name) value

/-- The published next hop. -/
def nextHop (host : Host) : Step Mac := do
  let text ← readParam settings host nextHopParam
  Step.ofExcept (Mac.parse text)

/-- Points the module at a peer, after setting the channel if it is not the module's own. -/
def setTarget (host : Host) (code : String) (channel : Channel) : Step Unit := do
  unless channel.isDefault do
    writeParam settings host channelParam channel.text
  writeParam settings host targetParam code

/-- Polls for a next hop other than the zero address. -/
def resolveGateway (host : Host) (policy : RetryPolicy) : Step Gateway := do
  let probe : Step (Option Mac) := do
    let mac ← nextHop settings host
    return if mac.isZero then none else some mac
  match ← policy.poll Step.pause probe with
  | .ready nextHop attempts => return { nextHop, attempts }
  | .exhausted attempts =>
    throw (.timeout ("next-hop MAC on " ++ host.text ++ " not resolved after " ++
      Text.decimal attempts ++ " attempts"))

/-- Switches gateway routing on. -/
def enableGateway (host : Host) : Step Unit :=
  writeParam settings host useGatewayParam "1"

/-- Reads the parameters that show the routing of IPv4; errors make no difference. -/
def showIpv4Params (host : Host) : List String → Program Unit
  | [] => pure ()
  | name :: names => do
    discard (readParam settings host name).run
    showIpv4Params host names

/-- Brings a loaded module to its peer. -/
def configureSelf (host : Host) (context : RunContext) (code : String) (policy : RetryPolicy) :
    Step (Option Gateway) :=
  match context.encapsulation, context.useGateway with
  | .ipv4, _ => do
    setTarget settings host code context.channel
    ExceptT.lift (showIpv4Params settings host ipv4Params)
    return some (← resolveGateway settings host policy)
  | .native, true => do
    let gateway ← resolveGateway settings host policy
    enableGateway settings host
    setTarget settings host code context.channel
    return some gateway
  | .native, false => do
    setTarget settings host code context.channel
    return none

end Module

end TtpConformance
