import Mathlib.Data.List.Forall2
import TtpConformance.Proofs.Run.Trace

/-!
# Replies that make no difference

A program may ask for something and go on in the same way whatever it is answered.  If
it does so with all requests of a kind, then a trace in which such requests were
answered otherwise is a trace of the program too, with the same result.

## Main definitions

* `Program.Ignores` — a program that does not listen to replies of a kind.
* `Event.SameBut` — events that differ in such replies only.

## Main statements

* `Program.Ignores.bind` — one program after the other.
* `Program.Ignores.yields` — other replies, and the same result.
-/

namespace TtpConformance

/-- Events that differ at most in the reply to a request in `S`. -/
def Event.SameBut (S : Request → Prop) (event event' : Event) : Prop :=
  event.1 = event'.1 ∧ (S event.1 ∨ event = event')

namespace Program

variable {α β : Type} {S : Request → Prop}

/-- A program that goes on in the same way whatever its requests in `S` are answered. -/
def Ignores (S : Request → Prop) : Program α → Prop
  | .done _ => True
  | .ask r k => (S r → ∀ reply reply', k reply = k reply') ∧ ∀ reply, (k reply).Ignores S

theorem Ignores.bind {p : Program α} {f : α → Program β} (h : p.Ignores S)
    (hf : ∀ a, (f a).Ignores S) : (p >>= f).Ignores S := by
  induction p with
  | done a => exact hf a
  | ask r k ih =>
      refine ⟨fun hr reply reply' => ?_, fun reply => ih reply (h.2 reply)⟩
      exact congrArg (· >>= f) (h.1 hr reply reply')

theorem Ignores.map {p : Program α} {g : α → β} (h : p.Ignores S) : (g <$> p).Ignores S := by
  rw [map_eq_pure_bind]
  exact h.bind fun _ => trivial

/-- A program listens to nothing in `S` that it does not ask for. -/
theorem Ensures.ignores {p : Program α} {Q : α → Prop} (h : p.Ensures (fun r => ¬ S r) Q) :
    p.Ignores S := by
  induction p with
  | done a => trivial
  | ask r k ih => exact ⟨fun hr => absurd hr h.1, fun reply => ih reply (h.2 reply)⟩

/-- A single request whose outcome is discarded. -/
theorem ignores_discard_of_single {p : Program α} {r : Request}
    (h : ∀ events a, p.Yields events a → ∃ reply, events = [⟨r, reply⟩]) :
    (discard p : Program Unit).Ignores S := by
  cases p with
  | done a =>
      obtain ⟨reply, heq⟩ := h [] a ⟨rfl, rfl⟩
      cases heq
  | ask r' k =>
      -- nothing is asked for after the reply
      have hend : ∀ reply, ∃ a, k reply = .done a := by
        intro reply
        cases hk : k reply with
        | done a => exact ⟨a, rfl⟩
        | ask r'' k' =>
            obtain ⟨events, a, hyields⟩ := exists_yields (k reply)
            obtain ⟨reply', heq⟩ := h (⟨r', reply⟩ :: events) a ⟨reply, events, rfl, hyields⟩
            rw [hk] at hyields
            obtain ⟨_, rest, rfl, -⟩ := hyields
            cases heq
      have hdone : ∀ reply, (discard (k reply) : Program Unit) = .done () := by
        intro reply
        obtain ⟨a, ha⟩ := hend reply
        rw [ha]
        rfl
      refine ⟨fun _ reply reply' => (hdone reply).trans (hdone reply').symm, fun reply => ?_⟩
      show (discard (k reply) : Program Unit).Ignores S
      rw [hdone]
      trivial

/-- Had the requests in `S` been answered otherwise, the result would have been the
same. -/
theorem Ignores.yields {p : Program α} {events events' : List Event} {a : α}
    (h : p.Ignores S) (hyields : p.Yields events a)
    (hsame : List.Forall₂ (Event.SameBut S) events events') : p.Yields events' a := by
  induction p generalizing events events' with
  | done b =>
      obtain ⟨rfl, rfl⟩ := hyields
      cases hsame
      exact ⟨rfl, rfl⟩
  | ask r k ih =>
      obtain ⟨reply, rest, rfl, hrest⟩ := hyields
      obtain ⟨⟨r', reply'⟩, rest', ⟨hr, hreply⟩, hrests, rfl⟩ :=
        List.forall₂_cons_left_iff.mp hsame
      obtain rfl : r = r' := hr
      refine ⟨reply', rest', rfl, ih reply' (h.2 reply') ?_ hrests⟩
      rcases hreply with hS | heq
      · rw [h.1 hS reply' reply]
        exact hrest
      · cases heq
        exact hrest

end Program

/-! ## Programs that may end with an error -/

theorem Conforms.ignores {ε α : Type} {S : Request → Prop} {E : ε → Prop}
    {x : ExceptT ε Program α} (h : Conforms (fun r => ¬ S r) E x) : x.run.Ignores S :=
  Program.Ensures.ignores h

theorem ignores_run_bind {ε α β : Type} {S : Request → Prop} {x : ExceptT ε Program α}
    {f : α → ExceptT ε Program β} (h : x.run.Ignores S) (hf : ∀ a, (f a).run.Ignores S) :
    (x >>= f).run.Ignores S := by
  rw [ExceptT.run_bind]
  refine h.bind fun result => ?_
  cases result with
  | ok a => exact hf a
  | error e => trivial

end TtpConformance
