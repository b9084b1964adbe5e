import TtpConformance.Proofs.Address.Octets
import TtpConformance.Proofs.Identity.Resolve
import TtpConformance.Proofs.Run.Answered

/-!
# The local node as its own peer

A peer is a node in three ways: by its host name, by its hardware address, and by the code
under which the module addresses it.  The local node has all three from its answers, the
peer from the target alone.  The code of the local node is the low half of its hardware
address in native mode, so that telling the addresses apart tells the codes apart.  With
IPv4 it is the last octet of another address, and a run is accepted whose peer has the
code of the local node.

## Main definitions

* `RunContext.Shows` — the identity of the local node that its answers show.

## Main statements

* `RunContext.Shows.isSameNode` — what may not be shared.
* `Identities.resultWith_resolve_of_shows` — the checks that are left when all is answered.
* `Identities.resolve_tells_apart` — what the check of the peer tells apart, and what not.
-/

namespace TtpConformance

/-! ## Codes -/

/-- Nodes of the vendor with one code have one hardware address. -/
theorem Target.mac_eq_of_code_eq {target : Target} {mac : Mac} (hvendor : mac.hasTtpVendor = true)
    (hcode : target.code = mac.low.code) : target.mac = mac := by
  have hlow : target.octets = mac.low := LowOctets.code_injective hcode
  obtain ⟨vendor, low⟩ := mac
  obtain rfl : vendor = Mac.ttpVendor := by simpa [Mac.hasTtpVendor] using hvendor
  rw [Target.mac, Mac.ofLow, hlow]

/-! ## Answers of the local node -/

variable {answer : Host → Command → Execution} {context : RunContext}

/-- All queries of the local node succeed, and they show this identity. -/
inductive RunContext.Shows (context : RunContext) (answer : Host → Command → Execution) :
    NodeIdentity → Prop where
  /-- In native mode the peers address the node by its hardware address. -/
  | native {name link : String} {mac : Mac} (hnative : context.encapsulation = .native)
      (hname : (answer .self .hostname).text? = some name)
      (hlink : (answer .self (.linkInfo context.self.device)).text? = some link)
      (hmac : linkAddress link = .ok mac) :
      Shows context answer
        { hostname := Text.trimmed name, mac, ipv4 := none, targetCode := mac.low.code }
  /-- With IPv4 they address it by the last octet of its IPv4 address. -/
  | ipv4 {name link address : String} {mac : Mac} {ip : Ipv4}
      (hipv4 : context.encapsulation = .ipv4)
      (hname : (answer .self .hostname).text? = some name)
      (hlink : (answer .self (.linkInfo context.self.device)).text? = some link)
      (hmac : linkAddress link = .ok mac)
      (haddress : (answer .self (.addressInfo context.self.device)).text? = some address)
      (hip : ipv4Address address = .ok ip) :
      Shows context answer
        { hostname := Text.trimmed name, mac, ipv4 := some ip,
          targetCode := (⟨0, 0, ip.d⟩ : LowOctets).code }

theorem resultWith_querySelf_eq_ok_iff {command : Command} {text : String} :
    Step.resultWith answer (querySelf command) = .ok text ↔
      (answer .self command).text? = some text := by
  rw [querySelf, Step.resultWith_mapError_eq_ok_iff, Step.resultWith_checked_eq_ok_iff]

theorem resultWith_selfHostname_eq_ok_iff {hostname : String} :
    Step.resultWith answer selfHostname = .ok hostname ↔
      ∃ name, (answer .self .hostname).text? = some name ∧ Text.trimmed name = hostname := by
  rw [selfHostname, Step.resultWith_bind_eq_ok_iff]
  simp only [Step.resultWith_checked_eq_ok_iff, Step.resultWith_pure, Except.ok.injEq]

/-- Who the local node is found to be is what its answers show. -/
theorem RunContext.shows_of_resolveSelf {hostname : String} {self : NodeIdentity}
    (hhostname : Step.resultWith answer selfHostname = .ok hostname)
    (hself : Step.resultWith answer (NodeIdentity.resolveSelf hostname context.self.device
      context.encapsulation) = .ok self) :
    self.hostname = hostname ∧ context.Shows answer self ∧
      (context.encapsulation = .native → self.mac.hasTtpVendor = true) := by
  obtain ⟨name, hname, rfl⟩ := resultWith_selfHostname_eq_ok_iff.mp hhostname
  rw [NodeIdentity.resolveSelf, Step.resultWith_bind_eq_ok_iff] at hself
  obtain ⟨link, hlink, hself⟩ := hself
  rw [resultWith_querySelf_eq_ok_iff] at hlink
  rw [Step.resultWith_bind_eq_ok_iff] at hself
  obtain ⟨mac, hmac, hself⟩ := hself
  rw [Step.resultWith_ofExcept] at hmac
  cases hencapsulation : context.encapsulation with
  | native =>
      simp only [hencapsulation] at hself
      split at hself
      case isTrue hvendor =>
        cases hself
        exact ⟨rfl, .native hencapsulation hname hlink hmac, fun _ => hvendor⟩
      case isFalse => cases hself
  | ipv4 =>
      simp only [hencapsulation] at hself
      obtain ⟨address, haddress, hself⟩ := Step.resultWith_bind_eq_ok_iff.mp hself
      rw [resultWith_querySelf_eq_ok_iff] at haddress
      obtain ⟨ip, hip, hself⟩ := Step.resultWith_bind_eq_ok_iff.mp hself
      cases hself
      exact ⟨rfl, .ipv4 hencapsulation hname hlink hmac haddress hip, nofun⟩

/-- The host name that the answers show is found. -/
theorem RunContext.Shows.selfHostname {self : NodeIdentity} (h : context.Shows answer self) :
    Step.resultWith answer selfHostname = .ok self.hostname := by
  rw [resultWith_selfHostname_eq_ok_iff]
  cases h with
  | native _ hname => exact ⟨_, hname, rfl⟩
  | ipv4 _ hname => exact ⟨_, hname, rfl⟩

/-- The identity that the answers show is found, except that in native mode a device of another
vendor is refused. -/
theorem RunContext.Shows.resolveSelf {self : NodeIdentity} (h : context.Shows answer self) :
    Step.resultWith answer (NodeIdentity.resolveSelf self.hostname context.self.device
        context.encapsulation) =
      if context.encapsulation = .native ∧ self.mac.hasTtpVendor = false then
        .error (.configuration
          ("'" ++ context.self.device ++ "' is not a TTP device: " ++ self.mac.text))
      else .ok self := by
  cases h with
  | native hnative _ hlink hmac =>
      rw [NodeIdentity.resolveSelf,
        Step.resultWith_bind_of_ok (resultWith_querySelf_eq_ok_iff.mpr hlink),
        Step.resultWith_bind_of_ok ((Step.resultWith_ofExcept _).trans hmac)]
      simp only [hnative]
      split <;> simp_all
  | ipv4 hipv4 _ hlink hmac haddress hip =>
      rw [NodeIdentity.resolveSelf,
        Step.resultWith_bind_of_ok (resultWith_querySelf_eq_ok_iff.mpr hlink),
        Step.resultWith_bind_of_ok ((Step.resultWith_ofExcept _).trans hmac)]
      simp only [hipv4]
      rw [Step.resultWith_bind_of_ok (resultWith_querySelf_eq_ok_iff.mpr haddress),
        Step.resultWith_bind_of_ok ((Step.resultWith_ofExcept _).trans hip)]
      simp

/-! ## The check of the peer -/

/-- The check of the zones, which a run without a gateway does not need. -/
def RunContext.checkZones (context : RunContext) (hostname : String) : Except RunError Unit :=
  if context.useGateway then checkGatewayZones hostname context.target else .ok ()

theorem RunContext.configuration_of_checkZones_eq_error {hostname : String} {e : RunError}
    (h : context.checkZones hostname = .error e) : ∃ reason, e = .configuration reason := by
  unfold checkZones at h
  split at h
  · exact configuration_of_checkGatewayZones_eq_error h
  · cases h

/-- Finding out who takes part, as one value. -/
theorem Identities.resultWith_resolve (hremote : context.skip.remote = false) :
    Step.resultWith answer (resolve context) =
      (Step.resultWith answer selfHostname).bind fun hostname =>
        (context.checkZones hostname).bind fun _ =>
        (Step.resultWith answer (NodeIdentity.resolveSelf hostname context.self.device
          context.encapsulation)).bind fun self =>
        (NodeIdentity.ofTarget context.target).bind fun peer =>
          if peer.isSameNode self then
            .error (.configuration
              ("--target='" ++ context.target.fragment ++ "' names the local node"))
          else .ok { self, peer := some peer, target := context.target } := by
  rw [resolve, Step.resultWith_bind]
  congr 1
  funext hostname
  refine Step.resultWith_onlyIf.trans ?_
  rw [Step.resultWith_ofExcept]
  congr 1
  funext _
  rw [Step.resultWith_bind]
  congr 1
  funext self
  rw [if_neg (by rw [hremote]; decide), Step.resultWith_bind, Step.resultWith_ofExcept]
  congr 1
  funext peer
  split <;> rfl

/-- With everything answered, only the checks are left. -/
theorem Identities.resultWith_resolve_of_shows (hremote : context.skip.remote = false)
    {self peer : NodeIdentity} (hself : context.Shows answer self)
    (hpeer : NodeIdentity.ofTarget context.target = .ok peer) :
    Step.resultWith answer (resolve context) =
      (context.checkZones self.hostname).bind fun _ =>
      if context.encapsulation = .native ∧ self.mac.hasTtpVendor = false then
        .error (.configuration
          ("'" ++ context.self.device ++ "' is not a TTP device: " ++ self.mac.text))
      else if peer.isSameNode self then
        .error (.configuration
          ("--target='" ++ context.target.fragment ++ "' names the local node"))
      else .ok { self, peer := some peer, target := context.target } := by
  rw [resultWith_resolve hremote, hself.selfHostname]
  simp only [Except.bind, hself.resolveSelf, hpeer]
  split
  · rfl
  · by_cases hrefused : context.encapsulation = .native ∧ self.mac.hasTtpVendor = false
    · rw [if_pos hrefused, if_pos hrefused]
    · rw [if_neg hrefused, if_neg hrefused]

/-- In a run that is accepted the local node is what its answers show and the peer what the
target says, and they are not the same node. -/
theorem Identities.shows_of_resolve (hremote : context.skip.remote = false)
    {identities : Identities} (h : Step.resultWith answer (resolve context) = .ok identities) :
    context.Shows answer identities.self ∧
      (context.encapsulation = .native → identities.self.mac.hasTtpVendor = true) ∧
      ∃ peer, NodeIdentity.ofTarget context.target = .ok peer ∧ identities.peer = some peer ∧
        peer.isSameNode identities.self = false := by
  rw [resultWith_resolve hremote, except_bind_eq_ok_iff] at h
  obtain ⟨hostname, hhostname, h⟩ := h
  obtain ⟨-, -, h⟩ := except_bind_eq_ok_iff.mp h
  obtain ⟨self, hself, h⟩ := except_bind_eq_ok_iff.mp h
  obtain ⟨peer, hpeer, h⟩ := except_bind_eq_ok_iff.mp h
  obtain ⟨-, hshows, hvendor⟩ := RunContext.shows_of_resolveSelf hhostname hself
  split at h
  case isTrue => cases h
  case isFalse hsame =>
    cases h
    exact ⟨hshows, hvendor, peer, hpeer, rfl, by simpa using hsame⟩

theorem NodeIdentity.isSameNode_eq_false_iff {peer self : NodeIdentity} :
    peer.isSameNode self = false ↔ peer.hostname ≠ self.hostname ∧ peer.mac ≠ self.mac := by
  simp [isSameNode]

/-- In native mode a peer with the code of the local node has its hardware address. -/
theorem RunContext.Shows.mac_eq_of_targetCode_eq {self peer : NodeIdentity}
    (hself : context.Shows answer self) (hpeer : NodeIdentity.ofTarget context.target = .ok peer)
    (hnative : context.encapsulation = .native) (hvendor : self.mac.hasTtpVendor = true)
    (hcode : peer.targetCode = self.targetCode) : peer.mac = self.mac := by
  rw [NodeIdentity.ofTarget] at hpeer
  cases hname : context.target.hostname with
  | error e => rw [hname] at hpeer; cases hpeer
  | ok name =>
      rw [hname] at hpeer
      cases hpeer
      cases hself with
      | native => exact Target.mac_eq_of_code_eq hvendor hcode
      | ipv4 hipv4 => rw [hnative] at hipv4; cases hipv4

/-- What the local node and the peer may share for the check to find out, with a device of the
vendor in native mode. -/
theorem RunContext.Shows.isSameNode {self peer : NodeIdentity}
    (hself : context.Shows answer self) (hpeer : NodeIdentity.ofTarget context.target = .ok peer)
    (hvendor : context.encapsulation = .native → self.mac.hasTtpVendor = true)
    (hsame : peer.hostname = self.hostname ∨ peer.mac = self.mac ∨
      context.encapsulation = .native ∧ peer.targetCode = self.targetCode) :
    peer.isSameNode self = true := by
  rw [← Bool.not_eq_false, NodeIdentity.isSameNode_eq_false_iff]
  rintro ⟨hhostname, hmac⟩
  rcases hsame with hsame | hsame | ⟨hnative, hcode⟩
  · exact hhostname hsame
  · exact hmac hsame
  · exact hmac (hself.mac_eq_of_targetCode_eq hpeer hnative (hvendor hnative) hcode)

/--
What the check of the peer tells apart.  In a run that is accepted the peer has another
host name and another hardware address than the local node, and in native mode another
code.  If one of these is shared, the run is badly configured.  With IPv4 the code is not
looked at: a run is accepted whose peer is the local node by its code.
-/
theorem Identities.resolve_tells_apart (context : RunContext)
    (hremote : context.skip.remote = false) (answer : Host → Command → Execution) :
    (∀ identities, Step.resultWith answer (resolve context) = .ok identities →
      context.Shows answer identities.self ∧
      ∃ peer, NodeIdentity.ofTarget context.target = .ok peer ∧ identities.peer = some peer ∧
        peer.hostname ≠ identities.self.hostname ∧ peer.mac ≠ identities.self.mac ∧
        (context.encapsulation = .native → peer.targetCode ≠ identities.self.targetCode)) ∧
    (∀ self peer, context.Shows answer self → NodeIdentity.ofTarget context.target = .ok peer →
      (peer.hostname = self.hostname ∨ peer.mac = self.mac ∨
        context.encapsulation = .native ∧ peer.targetCode = self.targetCode) →
      ∃ reason, Step.resultWith answer (resolve context) = .error (.configuration reason)) ∧
    (context.encapsulation = .ipv4 →
      ∀ self peer, context.Shows answer self → NodeIdentity.ofTarget context.target = .ok peer →
      context.checkZones self.hostname = .ok () →
      peer.hostname ≠ self.hostname → peer.mac ≠ self.mac →
      Step.resultWith answer (resolve context) =
        .ok { self, peer := some peer, target := context.target }) := by
  refine ⟨fun identities h => ?_, fun self peer hself hpeer hsame => ?_,
    fun hipv4 self peer hself hpeer hzones hhostname hmac => ?_⟩
  · obtain ⟨hself, hvendor, peer, hpeer, hidentities, hsame⟩ := shows_of_resolve hremote h
    obtain ⟨hhostname, hmac⟩ := NodeIdentity.isSameNode_eq_false_iff.mp hsame
    refine ⟨hself, peer, hpeer, hidentities, hhostname, hmac, fun hnative hcode => ?_⟩
    exact hmac (hself.mac_eq_of_targetCode_eq hpeer hnative (hvendor hnative) hcode)
  · rw [resultWith_resolve_of_shows hremote hself hpeer]
    cases hzones : context.checkZones self.hostname with
    | error e =>
        obtain ⟨reason, rfl⟩ := RunContext.configuration_of_checkZones_eq_error hzones
        exact ⟨reason, rfl⟩
    | ok _ =>
        simp only [Except.bind]
        split
        case isTrue => exact ⟨_, rfl⟩
        case isFalse hvendor =>
          rw [if_pos (hself.isSameNode hpeer (by simpa using hvendor) hsame)]
          exact ⟨_, rfl⟩
  · have hdiffers := NodeIdentity.isSameNode_eq_false_iff.mpr ⟨hhostname, hmac⟩
    rw [resultWith_resolve_of_shows hremote hself hpeer, hzones]
    simp [Except.bind, hipv4, hdiffers]

/-- A run with IPv4 against the node whose code ends with ten. -/
def RunContext.toTen : RunContext where
  target := ⟨⟨0, 0, 10⟩⟩
  encapsulation := .ipv4
  useGateway := false
  channel := .default
  dropPercent := 0
  settle := .zero
  verbose := 0
  self := ⟨"vlip4", some defaultNetwork, none⟩
  peer := ⟨"vlip4", some defaultNetwork, none⟩
  skip := ⟨false, false, false, false, false⟩
  trafficRepeats := none

/-- The answers of the first node, whose IPv4 address ends with ten. -/
def answersOfFirst : Host → Command → Execution
  | .self, .hostname => .ok { stdout := "node-01" }
  | .self, .linkInfo _ => .ok { stdout := "[\x7b\"address\":\"98:ed:5c:00:00:01\"\x7d]" }
  | .self, .addressInfo _ =>
      .ok { stdout := "[\x7b\"addr_info\":[\x7b\"local\":\"10.0.0.10\"\x7d]\x7d]" }
  | _, _ => .error "not asked"

/-- With IPv4 the run to ten takes place, and one of the first node to itself does not. -/
theorem Identities.resolve_tells_apart_first :
    let self : NodeIdentity :=
      ⟨"node-01", ⟨Mac.ttpVendor, ⟨0, 0, 1⟩⟩, some ⟨10, 0, 0, 10⟩, "00000a"⟩
    let peer : NodeIdentity := ⟨"node-0a", ⟨Mac.ttpVendor, ⟨0, 0, 10⟩⟩, none, "00000a"⟩
    let toSelf : RunContext := { RunContext.toTen with target := ⟨⟨0, 0, 1⟩⟩ }
    RunContext.toTen.skip.remote = false ∧ RunContext.toTen.Shows answersOfFirst self ∧
      NodeIdentity.ofTarget RunContext.toTen.target = .ok peer ∧
      Step.resultWith answersOfFirst (resolve .toTen) =
        .ok { self, peer := some peer, target := ⟨⟨0, 0, 10⟩⟩ } ∧
      ∃ reason, Step.resultWith answersOfFirst (resolve toSelf) =
        .error (.configuration reason) := by
  intro self peer toSelf
  have hmac : linkAddress "[\x7b\"address\":\"98:ed:5c:00:00:01\"\x7d]" =
      .ok ⟨Mac.ttpVendor, ⟨0, 0, 1⟩⟩ := by decide +kernel
  have hip : ipv4Address "[\x7b\"addr_info\":[\x7b\"local\":\"10.0.0.10\"\x7d]\x7d]" =
      .ok ⟨10, 0, 0, 10⟩ := by decide +kernel
  have hname : Text.trimmed "node-01" = "node-01" := by decide +kernel
  have hcode : (⟨0, 0, 10⟩ : LowOctets).code = "00000a" := by decide +kernel
  have hself : ∀ context : RunContext, context.encapsulation = .ipv4 →
      context.Shows answersOfFirst self := by
    intro context hipv4
    have hshows : context.Shows answersOfFirst _ := .ipv4 hipv4 rfl rfl hmac rfl hip
    rwa [hname, hcode] at hshows
  have hpeer : NodeIdentity.ofTarget RunContext.toTen.target = .ok peer := by decide +kernel
  obtain ⟨-, -, haccepted⟩ := resolve_tells_apart .toTen rfl answersOfFirst
  obtain ⟨-, hrefused, -⟩ := resolve_tells_apart toSelf rfl answersOfFirst
  refine ⟨rfl, hself .toTen rfl, hpeer, ?_, ?_⟩
  · exact haccepted rfl self peer (hself .toTen rfl) hpeer rfl (by decide +kernel)
      (by decide +kernel)
  · exact hrefused self ⟨"node-01", ⟨Mac.ttpVendor, ⟨0, 0, 1⟩⟩, none, "000001"⟩
      (hself toSelf rfl) (by decide +kernel) (.inl rfl)

/-- With IPv4 a node may be its own peer: the first node is the one with the code ten. -/
theorem Identities.resolve_code_of_self :
    let self : NodeIdentity :=
      ⟨"node-01", ⟨Mac.ttpVendor, ⟨0, 0, 1⟩⟩, some ⟨10, 0, 0, 10⟩, "00000a"⟩
    let peer : NodeIdentity := ⟨"node-0a", ⟨Mac.ttpVendor, ⟨0, 0, 10⟩⟩, none, "00000a"⟩
    RunContext.toTen.skip.remote = false ∧
      Step.resultWith answersOfFirst (resolve .toTen) =
        .ok { self, peer := some peer, target := ⟨⟨0, 0, 10⟩⟩ } ∧
      peer.targetCode = self.targetCode := by
  intro self peer
  exact ⟨rfl, by decide +kernel, rfl⟩

end TtpConformance
