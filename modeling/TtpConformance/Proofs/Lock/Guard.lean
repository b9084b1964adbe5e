import Mathlib.Data.List.Induction
import TtpConformance.Proofs.Lock.Pool
import TtpConformance.Proofs.Lock.Take

/-!
# The guard of the locks

What a run does with its locks is said here against any provider: each request may be
answered in any way, by what has happened before or by chance.

The run keeps its locks in a guard.  To release the guard is to pop one lock after the
other and to give it back, until none is left; a guard that goes out of scope is released
then, if it still has locks.  A guard that is released explicitly goes out of scope as
well, and by then it is empty.  So both ways of letting go of the locks are one program,
the one that a run has in that place, and so is taking locks with a guard whose scope
ends in every failing branch.

A provider of lock files may refuse either step for reasons of its own, and then leaves
the directory as it is.

## Main definitions

* `World.traceOf` — the requests and replies of a run.
* `HeldLocks.releaseRemaining`, `HeldLocks.drop`, `HeldLocks.releaseAll` — the guard.
* `HeldLocks.acquireGuarded` — taking locks with a guard.
* `HeldLocks.PairTrace` — the four ways in which that can go.
* `LockDirectory.Responds`, `World.KeepsLockFiles` — lock files that may be refused.

## Main statements

* `HeldLocks.releaseAll_eq`, `HeldLocks.drop_eq`, `HeldLocks.acquireGuarded_eq` — the guard
  and the run without one.
* `HeldLocks.yields_acquire_iff` — the traces of taking locks as one.
* `HeldLocks.directory_of_fails_acquire` — the directory after that has failed.
* `HeldLocks.guard_gives_back_once` — the locks of a run against any provider.
-/

namespace TtpConformance

open LockDirectory (lockName)

namespace World

/-! ## Runs against any provider -/

variable {σ α : Type} (world : World σ)

/-- The requests and replies of a run, oldest first. -/
def traceOf : Program α → σ → List Event
  | .done _, _ => []
  | .ask r k, s => ⟨r, (world r s).1⟩ :: traceOf (k (world r s).1) (world r s).2

/-- A run has a trace of its program, whatever it is answered. -/
theorem yields_traceOf (p : Program α) (s : σ) :
    p.Yields (world.traceOf p s) (p.runIn world s).1 := by
  induction p generalizing s with
  | done a => exact ⟨rfl, rfl⟩
  | ask r k ih => exact ⟨_, _, rfl, ih _ _⟩

/-- Programs that end with a result of their own have the same trace without it. -/
theorem traceOf_bind_done {β : Type} (p : Program α) (b : β) (s : σ) :
    world.traceOf (p >>= fun _ => .done b) s = world.traceOf p s := by
  induction p generalizing s with
  | done a => rfl
  | ask r k ih =>
      rw [Program.ask_bind, traceOf, traceOf]
      exact congrArg _ (ih _ _)

end World

namespace HeldLocks

/-! ## The guard -/

/-- Gives back lock after lock, the newest first, and whatever is answered.  What is left is the
guard without its locks. -/
def releaseRemaining (held : HeldLocks) : Program HeldLocks :=
  if h : held.locks = [] then pure held
  else do
    discard (Program.request (.release (held.locks.getLast h)))
    releaseRemaining ⟨held.locks.dropLast⟩
termination_by held.locks.length
decreasing_by
  have hpos := List.length_pos_iff.mpr h
  rw [List.length_dropLast]
  omega

/-- What the end of a guard's scope comes to. -/
def drop (held : HeldLocks) : Program Unit :=
  if held.locks.isEmpty then pure () else discard held.releaseRemaining

/-- Releases a guard, whose scope ends then. -/
def releaseAll (held : HeldLocks) : Program Unit := do
  let held ← held.releaseRemaining
  held.drop

/-- Takes the locks of a run with a guard, which goes out of scope where that fails. -/
def acquireGuarded (self : String) (peer : Option String) :
    Program (Except RunError HeldLocks) := do
  let held : HeldLocks := {}
  match ← Program.request (.acquire self) with
  | .error e =>
    held.drop
    return .error e
  | .ok selfLock =>
    let held : HeldLocks := ⟨held.locks ++ [selfLock]⟩
    match peer with
    | none => return .ok held
    | some peer =>
      match ← Program.request (.acquire peer) with
      | .ok peerLock => return .ok ⟨held.locks ++ [peerLock]⟩
      | .error e =>
        held.releaseAll
        return .error e

theorem releaseRemaining_nil : releaseRemaining {} = pure {} := by
  rw [releaseRemaining, dif_pos rfl]

theorem releaseRemaining_concat (locks : List Lock) (lock : Lock) :
    releaseRemaining ⟨locks ++ [lock]⟩ =
      (discard (Program.request (.release lock)) >>= fun _ => releaseRemaining ⟨locks⟩) := by
  rw [releaseRemaining, dif_neg (List.concat_ne_nil lock locks), List.getLast_append_singleton,
    List.dropLast_concat]

/-- All locks are given back, and an empty guard is left. -/
theorem releaseRemaining_eq (held : HeldLocks) :
    held.releaseRemaining = (held.release >>= fun _ => pure {}) := by
  obtain ⟨locks⟩ := held
  induction locks using List.reverseRecOn with
  | nil => exact releaseRemaining_nil
  | append_singleton locks lock ih =>
      have hrelease : release ⟨locks ++ [lock]⟩ =
          (discard (Program.request (.release lock)) >>= fun _ => release ⟨locks⟩) := by
        simp only [release, List.reverse_append, List.reverse_singleton, List.singleton_append]
        rfl
      rw [releaseRemaining_concat, ih, hrelease, Program.bind_assoc]

theorem releaseAll_eq (held : HeldLocks) : held.releaseAll = held.release := by
  rw [releaseAll, releaseRemaining_eq, Program.bind_assoc]
  exact Program.bind_done _

theorem drop_eq (held : HeldLocks) : held.drop = held.release := by
  obtain ⟨locks⟩ := held
  cases locks with
  | nil => rfl
  | cons lock locks =>
      show discard (releaseRemaining ⟨lock :: locks⟩) = _
      rw [releaseRemaining_eq, discard_eq_map, map_bind]
      exact Program.bind_done _

/-- The guard adds nothing to what a run does anyway. -/
theorem acquireGuarded_eq (self : String) (peer : Option String) :
    acquireGuarded self peer = acquire self peer := by
  simp only [acquireGuarded, acquire, releaseAll_eq]
  rfl

/-- Both ways to let go of a guard ask for each of its locks once, newest first. -/
theorem recites_releaseAll (held : HeldLocks) :
    held.releaseAll.Recites (held.locks.reverse.map .release) := by
  rw [releaseAll_eq]
  exact recites_release held

theorem recites_drop (held : HeldLocks) :
    held.drop.Recites (held.locks.reverse.map .release) := by
  rw [drop_eq]
  exact recites_release held

/-! ## Taking locks as one -/

/-- The four ways in which taking the locks of a run as one can go.  Only the last one gives a
lock back, whatever comes of that, and the error is that of the peer. -/
inductive PairTrace (self : String) :
    Option String → List Event → Except RunError HeldLocks → Prop where
  | selfBusy {peer : Option String} {e : RunError} :
      PairTrace self peer [⟨.acquire self, .error e⟩] (.error e)
  | selfOnly {selfLock : Lock} :
      PairTrace self none [⟨.acquire self, .ok selfLock⟩] (.ok ⟨[selfLock]⟩)
  | both {owner : String} {selfLock peerLock : Lock} :
      PairTrace self (some owner)
        [⟨.acquire self, .ok selfLock⟩, ⟨.acquire owner, .ok peerLock⟩]
        (.ok ⟨[selfLock, peerLock]⟩)
  | peerBusy {owner : String} {selfLock : Lock} {e : RunError} {reply : Except RunError Unit} :
      PairTrace self (some owner)
        [⟨.acquire self, .ok selfLock⟩, ⟨.acquire owner, .error e⟩, ⟨.release selfLock, reply⟩]
        (.error e)

theorem yields_acquire_iff {self : String} {peer : Option String} {events : List Event}
    {result : Except RunError HeldLocks} :
    (acquire self peer).Yields events result ↔ PairTrace self peer events result := by
  have hback := @acquire_takesBack self peer events result
  constructor
  · intro h
    obtain ⟨taken, given, rfl, htake, hgiven⟩ := hback.mp h
    cases yields_take_iff.mp htake with
    | selfBusy =>
        obtain rfl : given = [] := List.map_eq_nil_iff.mp hgiven
        exact .selfBusy
    | selfOnly =>
        obtain rfl : given = [] := List.map_eq_nil_iff.mp hgiven
        exact .selfOnly
    | both =>
        obtain rfl : given = [] := List.map_eq_nil_iff.mp hgiven
        exact .both
    | @peerBusy owner selfLock e =>
        have hone : given.map Sigma.fst = [.release selfLock] := hgiven
        obtain ⟨⟨r, reply⟩, rfl, hr⟩ := List.map_eq_singleton_iff.mp hone
        obtain rfl : r = .release selfLock := hr
        exact .peerBusy
  · intro h
    cases h with
    | selfBusy => exact hback.mpr ⟨_, [], rfl, yields_take_iff.mpr .selfBusy, rfl⟩
    | selfOnly => exact hback.mpr ⟨_, [], rfl, yields_take_iff.mpr .selfOnly, rfl⟩
    | both => exact hback.mpr ⟨_, [], rfl, yields_take_iff.mpr .both, rfl⟩
    | @peerBusy owner selfLock e reply =>
        exact hback.mpr ⟨_, [⟨.release selfLock, reply⟩], rfl, yields_take_iff.mpr .peerBusy, rfl⟩

end HeldLocks

/-! ## Lock files that may be refused -/

namespace LockDirectory

variable {d d' : LockDirectory}

/-- What may come of a request to a provider of lock files: it is answered by what is in the
directory, or a step on a file is refused and leaves the directory as it is. -/
inductive Responds (d : LockDirectory) : Event → LockDirectory → Prop where
  | answered {event : Event} {d' : LockDirectory} (h : d.Answers event.1 event.2 d') :
      Responds d event d'
  | acquireRefused {owner reason : String} : Responds d ⟨.acquire owner, .error (.io reason)⟩ d
  | releaseRefused {lock : Lock} {reason : String} :
      Responds d ⟨.release lock, .error (.io reason)⟩ d

/-- The directory before and after a trace. -/
inductive Trail : LockDirectory → List Event → LockDirectory → Prop where
  | nil {d : LockDirectory} : Trail d [] d
  | cons {d mid d' : LockDirectory} {event : Event} {events : List Event}
      (hevent : d.Responds event mid) (hevents : Trail mid events d') : Trail d (event :: events) d'

theorem Responds.of_acquire_ok {owner : String} {lock : Lock}
    (h : d.Responds ⟨.acquire owner, .ok lock⟩ d') :
    lock.owner = owner ∧ d' = d.withNames (lockName owner :: d.names) := by
  cases h with
  | answered h =>
      rcases acquire_cases h with ⟨-, -, hreply, rfl⟩ | ⟨⟨e, hreply⟩, -⟩
      · cases hreply
        exact ⟨rfl, rfl⟩
      · cases hreply

theorem Responds.of_acquire_error {owner : String} {e : RunError}
    (h : d.Responds ⟨.acquire owner, .error e⟩ d') : d' = d := by
  cases h with
  | acquireRefused => rfl
  | answered h =>
      rcases acquire_cases h with ⟨-, -, hreply, -⟩ | ⟨-, rfl⟩
      · cases hreply
      · rfl

theorem Responds.of_release_ok {lock : Lock} (h : d.Responds ⟨.release lock, .ok ()⟩ d') :
    d' = d.withNames (d.names.erase (lockName lock.owner)) := by
  cases h with
  | answered h =>
      rcases release_cases h with ⟨-, rfl⟩ | ⟨⟨e, hreply⟩, -⟩
      · rfl
      · cases hreply

theorem Responds.of_release_error {lock : Lock} {e : RunError}
    (h : d.Responds ⟨.release lock, .error e⟩ d') : d' = d := by
  cases h with
  | releaseRefused => rfl
  | answered h =>
      rcases release_cases h with ⟨hreply, -⟩ | ⟨-, rfl⟩
      · cases hreply
      · rfl

end LockDirectory

/-- A provider of lock files: the directory that shows in its states changes as `Responds` says. -/
def World.KeepsLockFiles {σ : Type} (provider : World σ) (view : σ → LockDirectory) : Prop :=
  ∀ r s, (view s).Responds ⟨r, (provider r s).1⟩ (view (provider r s).2)

/-- The lock directory is such a provider. -/
theorem LockDirectory.keepsLockFiles_world : World.KeepsLockFiles LockDirectory.world id := by
  intro r d
  refine .answered ?_
  cases r <;> rfl

theorem World.trail_traceOf {σ α : Type} {provider : World σ} {view : σ → LockDirectory}
    (h : provider.KeepsLockFiles view) (p : Program α) (s : σ) :
    (view s).Trail (provider.traceOf p s) (view (p.runIn provider s).2) := by
  induction p generalizing s with
  | done a => exact .nil
  | ask r k ih => exact .cons (h r s) (ih _ _)

/-- Taking locks as one that has failed leaves the directory as it was, unless the local lock
file could not be removed: then that file is there, and nothing else has changed. -/
theorem HeldLocks.directory_of_fails_acquire {d d' : LockDirectory} {self : String}
    {peer : Option String} {events : List Event} {e : RunError}
    (h : PairTrace self peer events (.error e)) (htrail : d.Trail events d') :
    (events.any Event.isStuck = false → d' = d) ∧
      (events.any Event.isStuck = true → d' = d.withNames (lockName self :: d.names)) := by
  cases h with
  | selfBusy =>
      cases htrail with
      | cons hself hrest =>
          cases hrest
          exact ⟨fun _ => hself.of_acquire_error, by simp [Event.isStuck]⟩
  | @peerBusy owner selfLock e reply =>
      cases htrail with
      | cons hself hrest =>
      cases hrest with
      | cons hpeer hrest =>
      cases hrest with
      | cons hback hrest =>
          cases hrest
          obtain ⟨hlock, rfl⟩ := hself.of_acquire_ok
          obtain rfl := hpeer.of_acquire_error
          cases reply with
          | ok u =>
              refine ⟨fun _ => ?_, by simp [Event.isStuck]⟩
              rw [hback.of_release_ok, hlock]
              simp
          | error reason =>
              exact ⟨by simp [Event.isStuck], fun _ => hback.of_release_error⟩

/-! ## Main statement -/

/--
The locks of a run are given back once.  Against any provider, taking the locks as one goes
in one of four ways: the local lock is asked for first, the peer's only if that was had, and
if the peer's cannot be had for any reason the local lock is given back once, whatever is
answered, and the error is the peer's.  Releasing a guard, or letting it go out of scope, asks
for each lock that is held once, newest first, and goes on after failures; releasing leaves
an empty guard, whose end asks for nothing more.  With lock files, locks that could not be
taken leave the directory as it was, unless removing the local file has failed; and in that
case nothing but this file is new.
-/
theorem HeldLocks.guard_gives_back_once {σ : Type} (provider : World σ) (s : σ) :
    (∀ self peer,
      PairTrace self peer (provider.traceOf (acquireGuarded self peer) s)
        ((acquireGuarded self peer).runIn provider s).1 ∧
      acquireGuarded self peer = acquire self peer) ∧
    (∀ held : HeldLocks,
      (provider.traceOf held.releaseAll s).map Sigma.fst = held.locks.reverse.map .release ∧
      (provider.traceOf held.drop s).map Sigma.fst = held.locks.reverse.map .release ∧
      (held.releaseRemaining.runIn provider s).1 = {} ∧
      provider.traceOf held.releaseAll s = provider.traceOf held.releaseRemaining s ∧
      held.releaseAll = held.release ∧ held.drop = held.release) ∧
    (∀ view : σ → LockDirectory, provider.KeepsLockFiles view → ∀ self peer e,
      ((acquireGuarded self peer).runIn provider s).1 = .error e →
      let after := ((acquireGuarded self peer).runIn provider s).2
      let stuck := (provider.traceOf (acquireGuarded self peer) s).any Event.isStuck
      (stuck = false → view after = view s) ∧
        (stuck = true → view after = (view s).withNames (lockName self :: (view s).names))) := by
  have htrace : ∀ self peer, PairTrace self peer (provider.traceOf (acquireGuarded self peer) s)
      ((acquireGuarded self peer).runIn provider s).1 := by
    intro self peer
    have hyields := provider.yields_traceOf (acquireGuarded self peer) s
    rw [acquireGuarded_eq] at hyields ⊢
    exact yields_acquire_iff.mp hyields
  refine ⟨fun self peer => ⟨htrace self peer, acquireGuarded_eq self peer⟩, fun held => ?_,
    fun view hview self peer e hfails => ?_⟩
  · have hreleased := (recites_releaseAll held _ _).mp (provider.yields_traceOf held.releaseAll s)
    have hdropped := (recites_drop held _ _).mp (provider.yields_traceOf held.drop s)
    refine ⟨hreleased, hdropped, ?_, ?_, releaseAll_eq held, drop_eq held⟩
    · rw [releaseRemaining_eq, Program.runIn_bind]
      rfl
    · rw [releaseRemaining_eq, releaseAll_eq]
      exact (provider.traceOf_bind_done held.release ({} : HeldLocks) s).symm
  · have hpair := htrace self peer
    rw [hfails] at hpair
    have htrail := World.trail_traceOf hview (acquireGuarded self peer) s
    exact directory_of_fails_acquire hpair htrail

/-- The peer is locked by another run. -/
theorem HeldLocks.guard_gives_back_once_sample :
    let d : LockDirectory := { path := "/locks", names := ["ttp-host-lock-node-0a"] }
    ((acquireGuarded "node-01" (some "node-0a")).runIn LockDirectory.world d).2 = d := by
  intro d
  have hbusy : ((acquireGuarded "node-01" (some "node-0a")).runIn LockDirectory.world d).1 =
      .error (.resourceBusy "node-0a already locked (/locks/ttp-host-lock-node-0a exists)") := by
    rw [acquireGuarded_eq]
    decide +kernel
  have hremoved : (World.traceOf LockDirectory.world
      (acquireGuarded "node-01" (some "node-0a")) d).any Event.isStuck = false := by
    rw [acquireGuarded_eq]
    decide +kernel
  have hguard := (guard_gives_back_once LockDirectory.world d).2.2
    id LockDirectory.keepsLockFiles_world "node-01" (some "node-0a") _ hbusy
  exact hguard.1 hremoved

end TtpConformance
