import TtpConformance.Run.Program

/-!
# Locking the nodes of a run

A run holds the lock of the local node and, if it has a peer, that of the peer. It takes them as
one: a peer that is busy costs the local lock again. Locks are given back newest first, and one
that cannot be given back does not keep the others.

## Main definitions

* `HeldLocks` — the locks of a run, in the order in which they were taken.
* `HeldLocks.acquire`, `HeldLocks.release` — taking and giving back.
-/

namespace TtpConformance

/-- The locks that a run holds, in the order in which they were taken. -/
structure HeldLocks where
  locks : List Lock := []
  deriving DecidableEq, Repr

namespace HeldLocks

/-- The locked nodes. -/
def owners (held : HeldLocks) : List String := held.locks.map (·.owner)

/-- Gives locks back in the given order. -/
def releaseEach : List Lock → Program Unit
  | [] => pure ()
  | lock :: locks => do
    discard (Program.request (.release lock))
    releaseEach locks

/-- Gives all locks back, newest first. -/
def release (held : HeldLocks) : Program Unit := releaseEach held.locks.reverse

/-- Takes the lock of the local node, then that of the peer. -/
def acquire (self : String) (peer : Option String) : Program (Except RunError HeldLocks) := do
  match ← Program.request (.acquire self) with
  | .error e => return .error e
  | .ok selfLock =>
    match peer with
    | none => return .ok ⟨[selfLock]⟩
    | some peer =>
      match ← Program.request (.acquire peer) with
      | .ok peerLock => return .ok ⟨[selfLock, peerLock]⟩
      | .error e =>
        release ⟨[selfLock]⟩
        return .error e

end HeldLocks

end TtpConformance
