import TtpConformance.Lock.Pair
import TtpConformance.Proofs.Run.Trace

/-!
# The ledger of a run's locks

Which locks a run holds is not written down anywhere in the run; it follows from
what the run has been answered.  The ledger is that account, kept event by event:
a lock that was taken is entered, and one that is given back is struck out, whether
its file could be removed or not, since the run has let go of it either way.

A program is balanced from one ledger to another if it only ever gives back what
is entered at that moment.  This is all that an argument about several runs needs
to know of a run, and it is checked program by program, without any directory.

## Main definitions

* `Event.book` — one event entered into a ledger.
* `Event.isStuck` — a lock that was given back and whose file could not be removed.
* `Program.Balanced` — a program that gives back only what it holds, with a
  postcondition on its result and its last ledger.

## Main statements

* `Program.Balanced.bind` — balance composes.
* `HeldLocks.acquire_balanced`, `HeldLocks.release_balanced` — the two ends of
  holding locks.
-/

namespace TtpConformance

/-- The locks that a run holds after one more event, newest first. -/
def Event.book : Event → List Lock → List Lock
  | ⟨.acquire _, .ok lock⟩, held => lock :: held
  | ⟨.release lock, _⟩, held => held.erase lock
  | _, held => held

/-- Whether a lock was given back, but its file could not be removed. -/
def Event.isStuck : Event → Bool
  | ⟨.release _, .error _⟩ => true
  | _ => false

/-- A request that the ledger covers: what is given back has to be held. -/
def Request.Backed : Request → List Lock → Prop
  | .release lock, held => lock ∈ held
  | _, _ => True

/-- A request that is neither for a lock nor gives one back. -/
def Request.lockFree : Request → Prop
  | .acquire _ | .release _ => False
  | _ => True

theorem Event.book_of_lockFree {event : Event} (h : event.1.lockFree) (held : List Lock) :
    event.book held = held := by
  obtain ⟨r, reply⟩ := event
  cases r with
  | command | together | pause => rfl
  | acquire | release => exact h.elim

namespace Program

variable {α β : Type} {mid post : α → List Lock → Prop} {held : List Lock}

/-- Whatever is answered, only locks that are held are given back, and the result
and the last ledger are as `post` says. -/
def Balanced (post : α → List Lock → Prop) : Program α → List Lock → Prop
  | .done a, held => post a held
  | .ask r k, held =>
    r.Backed held ∧ ∀ reply, (k reply).Balanced post (Event.book ⟨r, reply⟩ held)

theorem Balanced.bind {p : Program α} {f : α → Program β} {post : β → List Lock → Prop}
    (h : p.Balanced mid held) (hf : ∀ a held, mid a held → (f a).Balanced post held) :
    (p >>= f).Balanced post held := by
  induction p generalizing held with
  | done a => exact hf a held h
  | ask r k ih => exact ⟨h.1, fun reply => ih reply (h.2 reply)⟩

/-- A program without lock requests leaves the ledger as it is. -/
theorem Ensures.balanced {p : Program α} {Q : α → Prop} (h : p.Ensures Request.lockFree Q) :
    p.Balanced (fun a after => Q a ∧ after = held) held := by
  induction p with
  | done a => exact ⟨h, rfl⟩
  | ask r k ih =>
      constructor
      · cases r with
        | acquire | release => exact h.1.elim
        | command | together | pause => exact trivial
      · intro reply
        rw [Event.book_of_lockFree h.1]
        exact ih reply (h.2 reply)

end Program

/-- A step without lock requests leaves the ledger to what comes after it. -/
theorem Conforms.balanced_bind {ε α β : Type} {E : ε → Prop} {x : ExceptT ε Program α}
    {f : α → ExceptT ε Program β} {post : Except ε β → List Lock → Prop} {held : List Lock}
    (h : Conforms Request.lockFree E x) (he : ∀ e, post (.error e) held)
    (hf : ∀ a, (f a).run.Balanced post held) : (x >>= f).run.Balanced post held := by
  rw [ExceptT.run_bind]
  apply (Program.Ensures.balanced h).bind
  intro result after hafter
  rw [hafter.2]
  cases result with
  | error e => exact he e
  | ok a => exact hf a

/-! ## Holding locks -/

namespace HeldLocks

/-- Giving back the newest locks of a ledger, in its order, strikes them out. -/
theorem releaseEach_balanced (locks rest : List Lock) :
    (releaseEach locks).Balanced (fun _ after => after = rest) (locks ++ rest) := by
  induction locks with
  | nil => exact rfl
  | cons lock locks ih =>
      refine ⟨List.mem_cons_self, fun reply => ?_⟩
      show (releaseEach locks).Balanced _ ((lock :: (locks ++ rest)).erase lock)
      rw [List.erase_cons_head]
      exact ih

/-- Locks in the order in which they were taken are the ledger backwards. -/
theorem release_balanced (held : HeldLocks) (rest : List Lock) :
    held.release.Balanced (fun _ after => after = rest) (held.locks.reverse ++ rest) :=
  releaseEach_balanced held.locks.reverse rest

/-- Taking locks as one enters all of them, or none. -/
theorem acquire_balanced (self : String) (peer : Option String) (held : List Lock) :
    (acquire self peer).Balanced
      (fun result after => match result with
        | .ok locks => after = locks.locks.reverse ++ held
        | .error _ => after = held) held := by
  refine ⟨trivial, fun selfReply => ?_⟩
  cases selfReply with
  | error e => exact rfl
  | ok selfLock =>
      cases peer with
      | none => exact rfl
      | some peer =>
          refine ⟨trivial, fun peerReply => ?_⟩
          cases peerReply with
          | ok peerLock => exact rfl
          | error e =>
              exact (release_balanced ⟨[selfLock]⟩ held).bind fun _ _ h => h

end HeldLocks

end TtpConformance
