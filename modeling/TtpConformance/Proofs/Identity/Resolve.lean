import TtpConformance.Identity.Resolve
import TtpConformance.Proofs.Module.Control

/-!
# What finding out who takes part asks for

Resolving the nodes of a run asks the local node for its name and its addresses, and
nobody for anything else.  It can fail because a command failed or gave something
unreadable, and otherwise only because the run is badly configured.

## Main statements

* `Identities.conforms_resolve_by_cause`, `Identities.conforms_resolve` — the bound.
* `Identities.gives_target`, `Identities.gives_noPeer` — the target of the result, and its
  peer.
-/

namespace TtpConformance

/-! ## Errors of the pure parts -/

theorem ofCommand_of_linkAddress_eq_error {output : String} {e : RunError}
    (h : linkAddress output = .error e) : e.OfCommand := by
  unfold linkAddress at h
  split at h
  · cases h
    trivial
  · cases h
    trivial
  · exact Mac.ofCommand_of_parse_eq_error h

theorem ofCommand_of_ipv4Address_eq_error {output : String} {e : RunError}
    (h : ipv4Address output = .error e) : e.OfCommand := by
  unfold ipv4Address at h
  split at h
  · cases h
    trivial
  · split at h
    · cases h
    · cases h
      trivial
  · cases h
    trivial

theorem configuration_of_checkGatewayZones_eq_error {hostname : String} {target : Target}
    {e : RunError} (h : checkGatewayZones hostname target = .error e) :
    ∃ reason, e = .configuration reason := by
  unfold checkGatewayZones at h
  split at h
  · cases h
  · dsimp only at h
    split at h
    · split at h
      · cases h
        exact ⟨_, rfl⟩
      · cases h
    · cases h

theorem NodeIdentity.unresolvedPeer_of_ofTarget_eq_error {target : Target} {e : RunError}
    (h : NodeIdentity.ofTarget target = .error e) : ∃ reason, e = .unresolvedPeer reason := by
  unfold NodeIdentity.ofTarget Target.hostname at h
  split at h
  · cases h
  · cases h
    exact ⟨_, rfl⟩

/-! ## Requests -/

section Requests

variable {P : Request → Prop} {E : RunError → Prop}
variable (hP : ∀ c : Command, c.changesState = false → c.opensFiles = false →
  P (.command .self c))
variable (hE : ∀ e : RunError, e.OfCommand → E e)
variable (hconfiguration : ∀ reason, E (.configuration reason))

include hP hconfiguration

theorem conforms_querySelf {c : Command} (hc : c.changesState = false)
    (hfiles : c.opensFiles = false) : Conforms P E (querySelf c) :=
  Step.conforms_mapError (Step.conforms_checked (hP c hc hfiles) fun _ => id)
    fun _ _ => hconfiguration _

include hE

theorem NodeIdentity.conforms_resolveSelf (hostname device : String)
    (encapsulation : Encapsulation) :
    Conforms P E (resolveSelf hostname device encapsulation) := by
  refine (conforms_querySelf hP hconfiguration rfl rfl).bind fun link => ?_
  refine (Step.conforms_ofExcept fun e he =>
    hE e (ofCommand_of_linkAddress_eq_error he)).bind fun mac => ?_
  cases encapsulation with
  | ipv4 =>
      refine (conforms_querySelf hP hconfiguration rfl rfl).bind fun address => ?_
      refine (Step.conforms_ofExcept fun e he =>
        hE e (ofCommand_of_ipv4Address_eq_error he)).bind fun ip => ?_
      exact Conforms.pure _
  | native =>
      dsimp only
      split
      · exact Conforms.pure _
      · exact Conforms.throw (hconfiguration _)

/-- Finding out who takes part asks the local node, changes nothing there and opens no
file.  It is only for a peer that the target has to have a name. -/
theorem Identities.conforms_resolve_by_cause (context : RunContext)
    (hunresolved : context.skip.remote = false → ∀ reason, E (.unresolvedPeer reason)) :
    Conforms P E (Identities.resolve context) := by
  have hzones : ∀ hostname, Conforms P E
      (Step.ofExcept (checkGatewayZones hostname context.target)) := fun hostname =>
    Step.conforms_ofExcept fun e he => by
      obtain ⟨reason, rfl⟩ := configuration_of_checkGatewayZones_eq_error he
      exact hconfiguration _
  have hpeer : context.skip.remote = false →
      Conforms P E (Step.ofExcept (NodeIdentity.ofTarget context.target)) := fun hremote =>
    Step.conforms_ofExcept fun e he => by
      obtain ⟨reason, rfl⟩ := NodeIdentity.unresolvedPeer_of_ofTarget_eq_error he
      exact hunresolved hremote _
  have hhostname : Conforms P E selfHostname :=
    (Step.conforms_checked (hP .hostname rfl rfl) hE).bind fun _ => Conforms.pure _
  refine hhostname.bind fun hostname => ?_
  have hnodes := NodeIdentity.conforms_resolveSelf hP hE hconfiguration hostname
    context.self.device context.encapsulation
  refine Conforms.onlyIf (hzones hostname) fun _ => hnodes.bind fun self => ?_
  split
  · exact Conforms.pure _
  · rename_i hremote
    refine (hpeer (Bool.eq_false_iff.mpr hremote)).bind fun peer => ?_
    split
    · exact Conforms.throw (hconfiguration _)
    · exact Conforms.pure _

omit hconfiguration

theorem Identities.conforms_resolve
    (hconfiguration : ∀ e : RunError, e.isConfiguration = true → E e) (context : RunContext) :
    Conforms P E (Identities.resolve context) :=
  conforms_resolve_by_cause hP hE (fun _ => hconfiguration _ rfl) context
    fun _ _ => hconfiguration _ rfl

end Requests

/-- Who takes part is found out of a given target. -/
theorem Identities.gives_target (context : RunContext) :
    Gives (fun identities => identities.target = context.target)
      (Identities.resolve context) := by
  refine Gives.bind fun hostname => Gives.onlyIf fun _ => Gives.bind fun self => ?_
  split
  · exact Gives.pure rfl
  · refine Gives.bind fun peer => ?_
    split
    · exact Gives.throw
    · exact Gives.pure rfl

/-- A run that is to leave the peer alone has none. -/
theorem Identities.gives_noPeer {context : RunContext} (hskip : context.skip.remote = true) :
    Gives (fun identities => identities.peer = none) (Identities.resolve context) := by
  refine Gives.bind fun hostname => Gives.onlyIf fun _ => Gives.bind fun self => ?_
  rw [if_pos hskip]
  exact Gives.pure rfl

end TtpConformance
