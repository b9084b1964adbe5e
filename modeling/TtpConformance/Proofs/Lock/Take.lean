import TtpConformance.Proofs.Run.Effects
import TtpConformance.Proofs.Run.TakesBack

/-!
# Taking the locks of a run

A run takes its locks as one.  That is taking them one by one and, if one of them
cannot be had, giving back the one that is held by then.

## Main definitions

* `HeldLocks.take` — taking the locks, and giving none back.
* `HeldLocks.Taking` — how that can go.

## Main statements

* `HeldLocks.yields_take_iff` — the traces of taking locks.
* `HeldLocks.acquire_takesBack` — taking them as one.
* `HeldLocks.account_of_yields_take`, `HeldLocks.owners_of_take` — what is held then.
-/

namespace TtpConformance

namespace HeldLocks

variable {self : String} {peer : Option String} {events : List Event}

/-- The request that gives back a lock comes once for each lock, newest first. -/
theorem recites_release (held : HeldLocks) :
    held.release.Recites (held.locks.reverse.map .release) := by
  unfold release
  induction held.locks.reverse with
  | nil => exact Program.recites_pure
  | cons lock locks ih => exact (Program.recites_discard_request _).bind ih

/-- Takes the locks of a run, and gives none back. -/
def take (self : String) (peer : Option String) : Step HeldLocks := do
  let selfLock ← ExceptT.mk (Program.request (.acquire self))
  match peer with
  | none => return ⟨[selfLock]⟩
  | some peer =>
    let peerLock ← ExceptT.mk (Program.request (.acquire peer))
    return ⟨[selfLock, peerLock]⟩

/-- The four ways in which taking the locks of a run can go. -/
inductive Taking (self : String) :
    Option String → List Event → Except RunError HeldLocks → Prop where
  | selfBusy {peer : Option String} {e : RunError} :
      Taking self peer [⟨.acquire self, .error e⟩] (.error e)
  | selfOnly {selfLock : Lock} :
      Taking self none [⟨.acquire self, .ok selfLock⟩] (.ok ⟨[selfLock]⟩)
  | peerBusy {owner : String} {selfLock : Lock} {e : RunError} :
      Taking self (some owner)
        [⟨.acquire self, .ok selfLock⟩, ⟨.acquire owner, .error e⟩] (.error e)
  | both {owner : String} {selfLock peerLock : Lock} :
      Taking self (some owner)
        [⟨.acquire self, .ok selfLock⟩, ⟨.acquire owner, .ok peerLock⟩]
        (.ok ⟨[selfLock, peerLock]⟩)

theorem yields_take_iff {result : Except RunError HeldLocks} :
    (take self peer).run.Yields events result ↔ Taking self peer events result := by
  constructor
  · rintro ⟨_ | selfLock, rest, rfl, h⟩
    · obtain ⟨rfl, rfl⟩ := h
      exact .selfBusy
    cases peer with
    | none =>
        obtain ⟨rfl, rfl⟩ := h
        exact .selfOnly
    | some owner =>
        obtain ⟨_ | peerLock, rest, rfl, rfl, rfl⟩ := h
        · exact .peerBusy
        · exact .both
  · intro h
    cases h with
    | selfBusy => exact ⟨_, [], rfl, rfl, rfl⟩
    | selfOnly => exact ⟨_, [], rfl, rfl, rfl⟩
    | peerBusy => exact ⟨_, _, rfl, _, [], rfl, rfl, rfl⟩
    | both => exact ⟨_, _, rfl, _, [], rfl, rfl, rfl⟩

/-- Taking locks as one is taking them and, if one cannot be had, giving back what is
held by then. -/
theorem acquire_takesBack :
    TakesBack (fun events => (Trace.held events).map .release)
      (ExceptT.mk (acquire self peer)) (take self peer) := by
  have hback : ∀ {selfLock e after result},
      (release ⟨[selfLock]⟩ >>= fun _ => Program.done (.error e)).Yields after result ↔
        after.map Sigma.fst = [.release selfLock] ∧
          result = (.error e : Except RunError HeldLocks) := by
    intro selfLock e after result
    rw [Program.yields_bind_iff]
    constructor
    · rintro ⟨after, _, _, rfl, hafter, rfl, rfl⟩
      rw [List.append_nil]
      exact ⟨(recites_release _ _ _).mp hafter, rfl⟩
    · rintro ⟨hafter, rfl⟩
      exact ⟨after, (), [], (List.append_nil _).symm, (recites_release _ _ _).mpr hafter,
        rfl, rfl⟩
  intro events result
  constructor
  · rintro ⟨_ | selfLock, rest, rfl, h⟩
    · obtain ⟨rfl, rfl⟩ := h
      exact ⟨_, [], rfl, yields_take_iff.mpr .selfBusy, rfl⟩
    cases peer with
    | none =>
        obtain ⟨rfl, rfl⟩ := h
        exact ⟨_, [], rfl, yields_take_iff.mpr .selfOnly, rfl⟩
    | some owner =>
        obtain ⟨peerReply, after, rfl, h⟩ := h
        cases peerReply with
        | error e =>
            obtain ⟨hafter, rfl⟩ := hback.mp h
            exact ⟨[⟨.acquire self, .ok selfLock⟩, ⟨.acquire owner, .error e⟩], after, rfl,
              yields_take_iff.mpr .peerBusy, hafter⟩
        | ok peerLock =>
            obtain ⟨rfl, rfl⟩ := h
            exact ⟨_, [], rfl, yields_take_iff.mpr .both, rfl⟩
  · rintro ⟨before, after, rfl, htake, hafter⟩
    cases yields_take_iff.mp htake with
    | selfBusy =>
        obtain rfl := List.map_eq_nil_iff.mp hafter
        exact ⟨_, [], rfl, rfl, rfl⟩
    | selfOnly =>
        obtain rfl := List.map_eq_nil_iff.mp hafter
        exact ⟨_, [], rfl, rfl, rfl⟩
    | peerBusy => exact ⟨.ok _, _ :: after, rfl, .error _, after, rfl, hback.mpr ⟨hafter, rfl⟩⟩
    | both =>
        obtain rfl := List.map_eq_nil_iff.mp hafter
        exact ⟨_, _, rfl, _, [], rfl, rfl, rfl⟩

/-- What taking locks does to the account: the locks that it gives are held, and no
module is loaded. -/
theorem account_of_yields_take {result : Except RunError HeldLocks}
    (h : (take self peer).run.Yields events result) :
    (∀ event ∈ events, ∃ owner, event.1 = .acquire owner) ∧ Trace.loaded events = [] ∧
      Trace.unloaded events = [] ∧
      ∀ locks, result = .ok locks → Trace.held events = locks.locks.reverse := by
  cases yields_take_iff.mp h with
  | selfBusy => exact ⟨by simp, rfl, rfl, fun locks heq => nomatch heq⟩
  | peerBusy => exact ⟨by simp, rfl, rfl, fun locks heq => nomatch heq⟩
  | selfOnly =>
      refine ⟨by simp, rfl, rfl, fun locks heq => ?_⟩
      cases heq
      rfl
  | both =>
      refine ⟨by simp, rfl, rfl, fun locks heq => ?_⟩
      cases heq
      rfl

/-- The locks that are taken are those of the nodes that were asked for, if each reply
gives the lock that was asked for. -/
theorem owners_of_take {locks : HeldLocks} (h : Succeeds (take self peer) events locks)
    (howner : ∀ owner lock, (⟨.acquire owner, .ok lock⟩ : Event) ∈ events →
      lock.owner = owner) :
    locks.owners = self :: peer.toList := by
  cases yields_take_iff.mp h with
  | @selfOnly selfLock =>
      have hself := howner self selfLock (by simp)
      rw [owners, List.map_singleton, hself]
      rfl
  | @both owner selfLock peerLock =>
      have hself := howner self selfLock (by simp)
      have hpeer := howner owner peerLock (by simp)
      rw [owners, List.map_cons, List.map_singleton, hself, hpeer]
      rfl

end HeldLocks

end TtpConformance
