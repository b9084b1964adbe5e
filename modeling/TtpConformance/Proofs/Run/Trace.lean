import TtpConformance.Run.Step

/-!
# Traces of programs

A program is a tree, and its surroundings choose a path through it.  A trace is
such a path: the requests together with the replies that they got.  Nothing is
assumed of the replies, so a fact about all traces of a program holds in every
surroundings, however its replies depend on what has happened before.

Two readings are used throughout.  `Yields` takes a trace apart along the
program's own sequencing and is what end-to-end statements are made of;
`Ensures` is the one-request-at-a-time bound from which "this program only ever
asks for …" is built up piece by piece.

## Main definitions

* `Program.Yields` — a trace of a program, with the result at its end.
* `Succeeds`, `Fails` — a trace of a program that may end with an error.
* `Program.Recites` — a program that does not listen to the replies.
* `Program.Ensures`, `Conforms` — a bound on every request, and on the result.
* `Gives` — a bound on results that are no errors.

## Main statements

* `Program.yields_bind_iff`, `yields_run_bind_iff`, `fails_bind_iff`, `succeeds_bind_iff` —
  the trace of one program after the other.
* `Program.eq_of_yields_append` — a trace and its result are settled by what has happened.
* `Program.Ensures.bind`, `Conforms.bind` — bounds compose.
* `Program.Ensures.of_yields`, `Program.ensures_of_forall_yields` — a bound on a program
  is a bound on its traces.
-/

namespace TtpConformance

/-- Discarding a result is mapping it to nothing. -/
theorem discard_eq_map {m : Type → Type} [Monad m] [LawfulMonad m] {α : Type} (x : m α) :
    discard x = (fun _ => ()) <$> x := by
  rw [Functor.discard, LawfulFunctor.map_const]
  rfl

namespace Program

variable {α β : Type}

/-! ## Traces -/

/-- Answered as in `events`, in order, the program ends with `b`. -/
def Yields : Program α → List Event → α → Prop
  | .done a, events, b => events = [] ∧ b = a
  | .ask r k, events, b =>
    ∃ reply rest, events = ⟨r, reply⟩ :: rest ∧ (k reply).Yields rest b

@[simp] theorem yields_done_iff {a b : α} {events : List Event} :
    (Program.done a).Yields events b ↔ events = [] ∧ b = a := Iff.rfl

theorem yields_ask_iff {r : Request} {k : r.Reply → Program α} {events : List Event} {b : α} :
    (Program.ask r k).Yields events b ↔
      ∃ reply rest, events = ⟨r, reply⟩ :: rest ∧ (k reply).Yields rest b := Iff.rfl

@[simp] theorem yields_request_iff {r : Request} {events : List Event} {reply : r.Reply} :
    (request r).Yields events reply ↔ events = [⟨r, reply⟩] := by
  constructor
  · rintro ⟨answer, rest, rfl, rfl, rfl⟩
    rfl
  · rintro rfl
    exact ⟨reply, [], rfl, rfl, rfl⟩

/-- A trace of one program after the other is a trace of the first, up to some
result, followed by a trace of the second. -/
theorem yields_bind_iff {p : Program α} {f : α → Program β} {events : List Event} {b : β} :
    (p >>= f).Yields events b ↔
      ∃ first a second, events = first ++ second ∧ p.Yields first a ∧ (f a).Yields second b := by
  induction p generalizing events with
  | done a =>
      constructor
      · exact fun h => ⟨[], a, events, rfl, ⟨rfl, rfl⟩, h⟩
      · rintro ⟨_, _, second, rfl, ⟨rfl, rfl⟩, h⟩
        exact h
  | ask r k ih =>
      rw [ask_bind, yields_ask_iff]
      constructor
      · rintro ⟨reply, rest, rfl, h⟩
        obtain ⟨first, a, second, rfl, hp, hf⟩ := (ih reply).mp h
        exact ⟨⟨r, reply⟩ :: first, a, second, rfl, ⟨reply, first, rfl, hp⟩, hf⟩
      · rintro ⟨_, a, second, rfl, ⟨reply, first, rfl, hp⟩, hf⟩
        exact ⟨reply, first ++ second, rfl, (ih reply).mpr ⟨first, a, second, rfl, hp, hf⟩⟩

/-- A program with a first part that is only run under a condition. -/
theorem yields_ite_bind {c : Prop} [Decidable c] {p : Program Unit} {q : Program β}
    {events : List Event} {b : β} (h : (if c then p >>= fun _ => q else q).Yields events b) :
    ∃ first second, events = first ++ second ∧
      (if c then p.Yields first () else first = []) ∧ q.Yields second b := by
  split at h <;> rename_i hc
  · obtain ⟨first, _, second, rfl, hp, hq⟩ := yields_bind_iff.mp h
    exact ⟨first, second, rfl, by rwa [if_pos hc], hq⟩
  · exact ⟨[], events, rfl, by rw [if_neg hc], h⟩

theorem yields_map_iff {p : Program α} {g : α → β} {events : List Event} {b : β} :
    (g <$> p).Yields events b ↔ ∃ a, p.Yields events a ∧ b = g a := by
  rw [map_eq_pure_bind, yields_bind_iff]
  constructor
  · rintro ⟨first, a, second, rfl, hp, rfl, rfl⟩
    exact ⟨a, by rwa [List.append_nil], rfl⟩
  · rintro ⟨a, hp, rfl⟩
    exact ⟨events, a, [], (List.append_nil _).symm, hp, rfl, rfl⟩

@[simp] theorem yields_discard_iff {p : Program α} {events : List Event} {u : Unit} :
    (discard p : Program Unit).Yields events u ↔ ∃ a, p.Yields events a := by
  rw [discard_eq_map, yields_map_iff]
  simp

/-! ## Programs that do not listen -/

/-- The same requests in the same order, whatever is answered. -/
def Recites (p : Program Unit) (requests : List Request) : Prop :=
  ∀ events u, p.Yields events u ↔ events.map Sigma.fst = requests

theorem recites_pure : (pure () : Program Unit).Recites [] := by
  intro events u
  rw [pure_eq, yields_done_iff, List.map_eq_nil_iff]
  exact and_iff_left rfl

theorem recites_discard_request (r : Request) :
    (discard (request r) : Program Unit).Recites [r] := by
  intro events u
  rw [yields_discard_iff, List.map_eq_singleton_iff]
  constructor
  · rintro ⟨reply, h⟩
    exact ⟨⟨r, reply⟩, yields_request_iff.mp h, rfl⟩
  · rintro ⟨⟨r, reply⟩, rfl, rfl⟩
    exact ⟨reply, yields_request_iff.mpr rfl⟩

theorem Recites.bind {p q : Program Unit} {requests requests' : List Request}
    (hp : p.Recites requests) (hq : q.Recites requests') :
    (p >>= fun _ => q).Recites (requests ++ requests') := by
  intro events u
  rw [yields_bind_iff]
  constructor
  · rintro ⟨first, v, second, rfl, hfirst, hsecond⟩
    rw [List.map_append, (hp first v).mp hfirst, (hq second u).mp hsecond]
  · intro h
    obtain ⟨first, second, rfl, hfirst, hsecond⟩ := List.map_eq_append_iff.mp h
    exact ⟨first, (), second, rfl, (hp first ()).mpr hfirst, (hq second u).mpr hsecond⟩

/-! ## Bounds on every request -/

/-- Whatever is answered, every request is in `P` and the result is in `Q`. -/
def Ensures (P : Request → Prop) (Q : α → Prop) : Program α → Prop
  | .done a => Q a
  | .ask r k => P r ∧ ∀ reply, (k reply).Ensures P Q

variable {P P' : Request → Prop} {Q Q' : α → Prop} {R : β → Prop}

theorem Ensures.mono {p : Program α} (h : p.Ensures P Q) (hP : ∀ r, P r → P' r)
    (hQ : ∀ a, Q a → Q' a) : p.Ensures P' Q' := by
  induction p with
  | done a => exact hQ a h
  | ask r k ih => exact ⟨hP r h.1, fun reply => ih reply (h.2 reply)⟩

theorem Ensures.bind {p : Program α} {f : α → Program β} (h : p.Ensures P Q)
    (hf : ∀ a, Q a → (f a).Ensures P R) : (p >>= f).Ensures P R := by
  induction p with
  | done a => exact hf a h
  | ask r k ih => exact ⟨h.1, fun reply => ih reply (h.2 reply)⟩

theorem ensures_request {r : Request} (h : P r) :
    (request r).Ensures P (fun _ => True) := ⟨h, fun _ => trivial⟩

theorem Ensures.map {p : Program α} {g : α → β} (h : p.Ensures P Q)
    (hg : ∀ a, Q a → R (g a)) : (g <$> p).Ensures P R := by
  rw [map_eq_pure_bind]
  exact h.bind hg

theorem Ensures.discard {p : Program α} (h : p.Ensures P Q) :
    (discard p : Program Unit).Ensures P (fun _ => True) := by
  rw [discard_eq_map]
  exact h.map fun _ _ => trivial

/-- A bound on a program is a bound on each of its traces. -/
theorem Ensures.of_yields {p : Program α} {events : List Event} {a : α} (h : p.Ensures P Q)
    (ht : p.Yields events a) : (∀ event ∈ events, P event.1) ∧ Q a := by
  induction p generalizing events with
  | done b =>
      obtain ⟨rfl, rfl⟩ := ht
      exact ⟨by simp, h⟩
  | ask r k ih =>
      obtain ⟨reply, rest, rfl, ht⟩ := ht
      obtain ⟨hrest, ha⟩ := ih reply (h.2 reply) ht
      refine ⟨?_, ha⟩
      intro event hevent
      rcases List.mem_cons.mp hevent with rfl | hmem
      · exact h.1
      · exact hrest event hmem

/-- Of what has happened, at most one first part is a trace of a program, and its result is
settled by it. -/
theorem eq_of_yields_append {p : Program α} {events events' rest rest' : List Event} {a b : α}
    (h : p.Yields events a) (h' : p.Yields events' b) (heq : events ++ rest = events' ++ rest') :
    events = events' ∧ a = b ∧ rest = rest' := by
  induction p generalizing events events' with
  | done c =>
      obtain ⟨rfl, rfl⟩ := h
      obtain ⟨rfl, rfl⟩ := h'
      exact ⟨rfl, rfl, heq⟩
  | ask r k ih =>
      obtain ⟨reply, later, rfl, h⟩ := h
      obtain ⟨reply', later', rfl, h'⟩ := h'
      rw [List.cons_append, List.cons_append, List.cons.injEq] at heq
      obtain ⟨hevent, hlater⟩ := heq
      cases hevent
      obtain ⟨rfl, hab, hrest⟩ := ih reply h h' hlater
      exact ⟨rfl, hab, hrest⟩

/-- What has happened settles the result. -/
theorem eq_of_yields {p : Program α} {events : List Event} {a b : α} (h : p.Yields events a)
    (h' : p.Yields events b) : a = b := by
  have heq : events ++ [] = events ++ [] := rfl
  exact (eq_of_yields_append h h' heq).2.1

/-- No trace of a program goes on behind another one. -/
theorem eq_nil_of_yields_append {p : Program α} {events rest : List Event} {a b : α}
    (h : p.Yields events a) (hlonger : p.Yields (events ++ rest) b) : rest = [] ∧ b = a := by
  have heq : events ++ rest = (events ++ rest) ++ [] := (List.append_nil _).symm
  obtain ⟨-, hab, hrest⟩ := eq_of_yields_append h hlonger heq
  exact ⟨hrest, hab.symm⟩

theorem nonempty_reply (r : Request) : Nonempty r.Reply := by
  cases r with
  | command => exact ⟨.error ""⟩
  | together => exact ⟨[]⟩
  | pause => exact ⟨()⟩
  | acquire => exact ⟨.error (.io "")⟩
  | release => exact ⟨.ok ()⟩

theorem exists_yields (p : Program α) : ∃ events a, p.Yields events a := by
  induction p with
  | done a => exact ⟨[], a, rfl, rfl⟩
  | ask r k ih =>
      obtain ⟨reply⟩ := nonempty_reply r
      obtain ⟨events, a, h⟩ := ih reply
      exact ⟨⟨r, reply⟩ :: events, a, reply, events, rfl, h⟩

/-- A bound on all traces is a bound on the program, since every request of a program
is in some trace. -/
theorem ensures_of_forall_yields {p : Program α}
    (h : ∀ events a, p.Yields events a → (∀ event ∈ events, P event.1) ∧ Q a) :
    p.Ensures P Q := by
  induction p with
  | done a => exact (h [] a ⟨rfl, rfl⟩).2
  | ask r k ih =>
      constructor
      · obtain ⟨events, a, hyields⟩ := exists_yields (.ask r k)
        obtain ⟨reply, rest, rfl, -⟩ := yields_ask_iff.mp hyields
        exact (h _ a hyields).1 _ List.mem_cons_self
      · intro reply
        apply ih reply
        intro events a hyields
        obtain ⟨hevents, ha⟩ := h (⟨r, reply⟩ :: events) a ⟨reply, events, rfl, hyields⟩
        exact ⟨fun event hevent => hevents event (List.mem_cons_of_mem _ hevent), ha⟩

/-- A program that does not listen asks for nothing but what it recites. -/
theorem Recites.ensures {p : Program Unit} {requests : List Request} (h : p.Recites requests)
    (hP : ∀ r ∈ requests, P r) : p.Ensures P fun _ => True :=
  ensures_of_forall_yields fun events u hyields =>
    ⟨fun event hevent => hP event.1 ((h events u).mp hyields ▸ List.mem_map_of_mem hevent),
      trivial⟩

end Program

/-! ## Programs that may end with an error -/

variable {ε α β : Type}

/-- Answered as in `events`, the program ends with the value `a`. -/
def Succeeds (x : ExceptT ε Program α) (events : List Event) (a : α) : Prop :=
  x.run.Yields events (.ok a)

/-- Answered as in `events`, the program ends with the error `e`. -/
def Fails (x : ExceptT ε Program α) (events : List Event) (e : ε) : Prop :=
  x.run.Yields events (.error e)

section Sequencing

variable {x : ExceptT ε Program α} {f : α → ExceptT ε Program β} {events : List Event}

theorem yields_run_bind_iff {result : Except ε β} :
    (x >>= f).run.Yields events result ↔
      (∃ e, Fails x events e ∧ result = .error e) ∨
        ∃ first a second, events = first ++ second ∧ Succeeds x first a ∧
          (f a).run.Yields second result := by
  rw [ExceptT.run_bind, Program.yields_bind_iff]
  constructor
  · rintro ⟨first, _ | a, second, rfl, hx, hf⟩
    · obtain ⟨rfl, rfl⟩ := hf
      exact .inl ⟨_, by rwa [List.append_nil], rfl⟩
    · exact .inr ⟨first, a, second, rfl, hx, hf⟩
  · rintro (⟨e, hx, rfl⟩ | ⟨first, a, second, rfl, hx, hf⟩)
    · exact ⟨events, .error e, [], (List.append_nil _).symm, hx, rfl, rfl⟩
    · exact ⟨first, .ok a, second, rfl, hx, hf⟩

/-- A sequence fails at its first part, with that part's error and nothing after
it, or goes past the first part and fails at the second. -/
theorem fails_bind_iff {e : ε} :
    Fails (x >>= f) events e ↔
      Fails x events e ∨
        ∃ first a second, events = first ++ second ∧ Succeeds x first a ∧
          Fails (f a) second e := by
  rw [Fails, yields_run_bind_iff]
  simp [Succeeds, Fails]

/-- A sequence succeeds if both of its parts do. -/
theorem succeeds_bind_iff {b : β} :
    Succeeds (x >>= f) events b ↔
      ∃ first a second, events = first ++ second ∧ Succeeds x first a ∧
        Succeeds (f a) second b := by
  rw [Succeeds, yields_run_bind_iff]
  simp [Succeeds, Fails]

end Sequencing

@[simp] theorem not_fails_pure {a : α} {events : List Event} {e : ε} :
    ¬ Fails (pure a : ExceptT ε Program α) events e := by
  simp [Fails]

/-- Whatever is answered, every request is in `P`, and an error is in `E`. -/
def Conforms (P : Request → Prop) (E : ε → Prop) (x : ExceptT ε Program α) : Prop :=
  x.run.Ensures P fun result => ∀ e, result = .error e → E e

namespace Conforms

variable {P P' : Request → Prop} {E E' : ε → Prop} {x : ExceptT ε Program α}

theorem mono (h : Conforms P E x) (hP : ∀ r, P r → P' r) (hE : ∀ e, E e → E' e) :
    Conforms P' E' x :=
  Program.Ensures.mono h hP fun _ h' e he => hE e (h' e he)

theorem bind {f : α → ExceptT ε Program β} (h : Conforms P E x)
    (hf : ∀ a, Conforms P E (f a)) : Conforms P E (x >>= f) := by
  unfold Conforms at *
  rw [ExceptT.run_bind]
  apply Program.Ensures.bind h
  intro result hresult
  cases result with
  | error e =>
      intro e' he'
      injection he' with he'
      exact he' ▸ hresult e rfl
  | ok a => exact hf a

theorem pure (a : α) : Conforms P E (pure a : ExceptT ε Program α) :=
  fun _ he => nomatch he

theorem throw {e : ε} (he : E e) : Conforms P E (throw e : ExceptT ε Program α) := by
  intro e' he'
  injection he' with he'
  exact he' ▸ he

/-- A step that is only taken on a condition, and whatever comes after it. -/
theorem onlyIf {c : Prop} [Decidable c] {step : ExceptT ε Program Unit}
    {f : Unit → ExceptT ε Program β} (h : Conforms P E step) (hf : ∀ u, Conforms P E (f u)) :
    Conforms P E (if c then step >>= f else f ()) := by
  split
  · exact h.bind hf
  · exact hf ()

theorem lift {p : Program α} {Q : α → Prop} (h : p.Ensures P Q) :
    Conforms P E (ExceptT.lift p : ExceptT ε Program α) := by
  unfold Conforms
  rw [ExceptT.run_lift]
  exact h.map fun _ _ _ he => nomatch he

theorem discard (h : Conforms P E x) : Conforms P E (discard x : ExceptT ε Program Unit) := by
  rw [discard_eq_map, map_eq_pure_bind]
  exact h.bind fun _ => pure ()

end Conforms

/-- Whatever is answered, a result that is no error is in `Q`. -/
def Gives (Q : α → Prop) (x : ExceptT ε Program α) : Prop :=
  x.run.Ensures (fun _ => True) fun result => ∀ a, result = .ok a → Q a

namespace Gives

variable {Q : β → Prop}

/-- Only what comes last gives the result. -/
theorem bind {x : ExceptT ε Program α} {f : α → ExceptT ε Program β}
    (hf : ∀ a, Gives Q (f a)) : Gives Q (x >>= f) := by
  have hany : x.run.Ensures (fun _ => True) fun _ => True :=
    Program.ensures_of_forall_yields fun _ _ _ => ⟨fun _ _ => trivial, trivial⟩
  unfold Gives at *
  rw [ExceptT.run_bind]
  refine hany.bind fun result _ => ?_
  cases result with
  | error e => exact fun a ha => nomatch ha
  | ok a => exact hf a

theorem onlyIf {c : Prop} [Decidable c] {step : ExceptT ε Program Unit}
    {f : Unit → ExceptT ε Program β} (hf : ∀ u, Gives Q (f u)) :
    Gives Q (if c then step >>= f else f ()) := by
  split
  · exact bind hf
  · exact hf ()

theorem pure {b : β} (hb : Q b) : Gives Q (pure b : ExceptT ε Program β) := by
  intro b' hb'
  injection hb' with hb'
  exact hb' ▸ hb

theorem throw {e : ε} : Gives Q (throw e : ExceptT ε Program β) :=
  fun _ hb => nomatch hb

end Gives

end TtpConformance
