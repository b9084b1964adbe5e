import TtpConformance.Proofs.Lock.Pool

/-!
# Arbitrary surroundings

What commands do on the nodes is not known here.  So surroundings may answer every
command as they like, and may look at everything that has happened before to do so;
only the locks are what they are, files in a directory.  A run among such surroundings
has a result, a trace, and a directory that it leaves.

A single run is a pool of one, so what the pool says of the directory holds of it: a
balanced run leaves the directory as it was.

## Main definitions

* `Surroundings` — how commands turn out.
* `Surroundings.run` — a run and its `Outcome`.

## Main statements

* `Surroundings.run_yields` — what has happened is a trace of the program.
* `Surroundings.run_bind_yields`, `Surroundings.run_bind_cases` — a run of two programs
  continues a run of the first.
* `Surroundings.directory_run` — the directory that a balanced run leaves.
-/

namespace TtpConformance

/-- How commands turn out, given everything that has happened before, newest first. -/
structure Surroundings where
  execute : List Event → Host → Command → Execution
  together : List Event → List (Host × Command) → List (Nat × Execution)

/-- What has come of a run. -/
structure Outcome (α : Type) where
  result : α
  /-- The requests and replies, oldest first. -/
  trace : List Event
  directory : LockDirectory

namespace Surroundings

variable {α β : Type}

/-- The reply to a request, and the directory after it. -/
def answer (x : Surroundings) (d : LockDirectory) (past : List Event) :
    (r : Request) → r.Reply × LockDirectory
  | .command host command => (x.execute past host command, d)
  | .together jobs => (x.together past jobs, d)
  | .pause _ => ((), d)
  | .acquire owner => d.acquire owner
  | .release lock => d.release lock

/-- The surroundings, with the directory and the past as their state. -/
def world (x : Surroundings) : World (LockDirectory × List Event) :=
  fun r (d, past) =>
    let (reply, d') := x.answer d past r
    (reply, d', ⟨r, reply⟩ :: past)

/-- A run from a directory on. -/
def run (x : Surroundings) (p : Program α) (d : LockDirectory) : Outcome α :=
  let (result, directory, past) := p.runIn x.world (d, [])
  { result, trace := past.reverse, directory }

theorem answers_answer (x : Surroundings) (d : LockDirectory) (past : List Event)
    (r : Request) : d.Answers r (x.answer d past r).1 (x.answer d past r).2 := by
  cases r <;> rfl

/-! ## Traces -/

/-- A run adds to the past.  What it adds is one of its traces, in which lock requests
are answered by some directory. -/
theorem exists_yields (x : Surroundings) (p : Program α) (d : LockDirectory)
    (past : List Event) :
    ∃ events, (p.runIn x.world (d, past)).2.2 = events.reverse ++ past ∧
      p.Yields events (p.runIn x.world (d, past)).1 ∧
      ∀ event ∈ events, ∃ d d', LockDirectory.Answers d event.1 event.2 d' := by
  induction p generalizing d past with
  | done a => exact ⟨[], rfl, ⟨rfl, rfl⟩, by simp⟩
  | ask r k ih =>
      let reply := (x.answer d past r).1
      obtain ⟨events, hpast, hyields, hanswers⟩ :=
        ih reply (x.answer d past r).2 (⟨r, reply⟩ :: past)
      refine ⟨⟨r, reply⟩ :: events, ?_, ⟨reply, events, rfl, hyields⟩, ?_⟩
      · rw [Program.runIn_ask, List.reverse_cons, List.append_assoc]
        exact hpast
      · intro event hevent
        rcases List.mem_cons.mp hevent with rfl | hmem
        · exact ⟨d, _, x.answers_answer d past r⟩
        · exact hanswers event hmem

theorem trace_run (x : Surroundings) {p : Program α} {d : LockDirectory}
    {events : List Event} (hpast : (p.runIn x.world (d, [])).2.2 = events.reverse ++ []) :
    (x.run p d).trace = events := by
  show (p.runIn x.world (d, [])).2.2.reverse = events
  rw [hpast, List.append_nil, List.reverse_reverse]

/-- The trace of a run is a trace of its program. -/
theorem run_yields (x : Surroundings) (p : Program α) (d : LockDirectory) :
    p.Yields (x.run p d).trace (x.run p d).result := by
  obtain ⟨events, hpast, hyields, -⟩ := x.exists_yields p d []
  rw [x.trace_run hpast]
  exact hyields

/-- A run that ends with an error is a trace on which its step fails. -/
theorem run_fails {ε : Type} (x : Surroundings) {step : ExceptT ε Program α} {d : LockDirectory}
    {e : ε} (h : (x.run step.run d).result = .error e) :
    Fails step (x.run step.run d).trace e := by
  have hyields := x.run_yields step.run d
  rwa [h] at hyields

/-- A lock that was had is one of the node that was asked for. -/
theorem owner_of_mem_trace (x : Surroundings) (p : Program α) (d : LockDirectory)
    {owner : String} {lock : Lock}
    (h : (⟨.acquire owner, .ok lock⟩ : Event) ∈ (x.run p d).trace) : lock.owner = owner := by
  obtain ⟨events, hpast, -, hanswers⟩ := x.exists_yields p d []
  rw [x.trace_run hpast] at h
  obtain ⟨before, after, hanswer⟩ := hanswers _ h
  rcases LockDirectory.acquire_cases hanswer with ⟨-, -, heq, -⟩ | ⟨⟨e, heq⟩, -⟩
  · cases heq
    rfl
  · cases heq

/-- A run of one program after the other starts with a run of the first. -/
theorem run_bind_yields (x : Surroundings) (p : Program α) (f : α → Program β)
    (d : LockDirectory) :
    ∃ rest, (x.run (p >>= f) d).trace = (x.run p d).trace ++ rest ∧
      (f (x.run p d).result).Yields rest (x.run (p >>= f) d).result := by
  let first := p.runIn x.world (d, [])
  obtain ⟨rest, hpast, hyields, -⟩ := x.exists_yields (f first.1) first.2.1 first.2.2
  have hbind : (p >>= f).runIn x.world (d, []) = (f first.1).runIn x.world first.2 :=
    Program.runIn_bind x.world p f (d, [])
  refine ⟨rest, ?_, ?_⟩
  · show ((p >>= f).runIn x.world (d, [])).2.2.reverse = first.2.2.reverse ++ rest
    rw [hbind, hpast, List.reverse_append, List.reverse_reverse]
  · show (f first.1).Yields rest ((p >>= f).runIn x.world (d, [])).1
    rw [hbind]
    exact hyields

/-- A run that goes on after a first part stops with that part's error, or goes on from
its result. -/
theorem run_bind_cases {ε : Type} (x : Surroundings) (p : ExceptT ε Program α)
    (f : α → ExceptT ε Program β) (d : LockDirectory) :
    (∃ e, (x.run p.run d).result = .error e ∧ (x.run (p >>= f).run d).result = .error e ∧
        (x.run (p >>= f).run d).trace = (x.run p.run d).trace) ∨
      ∃ a rest, (x.run p.run d).result = .ok a ∧
        (x.run (p >>= f).run d).trace = (x.run p.run d).trace ++ rest ∧
        (f a).run.Yields rest (x.run (p >>= f).run d).result := by
  have hbind : (p >>= f).run = p.run >>= ExceptT.bindCont f := rfl
  rw [hbind]
  obtain ⟨rest, htrace, hrest⟩ := x.run_bind_yields p.run (ExceptT.bindCont f) d
  cases hresult : (x.run p.run d).result with
  | error e =>
      rw [hresult] at hrest
      obtain ⟨rfl, hend⟩ := hrest
      exact .inl ⟨e, rfl, hend, by rw [htrace, List.append_nil]⟩
  | ok a =>
      rw [hresult] at hrest
      exact .inr ⟨a, rest, rfl, htrace, hrest⟩

/-! ## The directory -/

/-- A run is a sequence of steps of a pool of one. -/
theorem reachable_runIn (x : Surroundings) (p : Program α) (held : List Lock)
    (d : LockDirectory) (past : List Event) :
    ∃ held', Pool.Reachable (⟨d, fun _ => ⟨p, held⟩⟩ : Pool Unit α)
      ⟨(p.runIn x.world (d, past)).2.1,
        fun _ => ⟨.done (p.runIn x.world (d, past)).1, held'⟩⟩ := by
  induction p generalizing held d past with
  | done a => exact ⟨held, .refl⟩
  | ask r k ih =>
      let reply := (x.answer d past r).1
      obtain ⟨held', hreach⟩ := ih reply (Event.book ⟨r, reply⟩ held) (x.answer d past r).2
        (⟨r, reply⟩ :: past)
      refine ⟨held', hreach.head ?_⟩
      have hstep := Pool.Step.ask (s := ⟨d, fun _ => ⟨.ask r k, held⟩⟩) () r k reply
        (x.answer d past r).2 rfl (x.answers_answer d past r)
      have honly : Function.update (fun _ : Unit => (⟨.ask r k, held⟩ : PendingRun α)) ()
          ⟨k reply, Event.book ⟨r, reply⟩ held⟩ =
            fun _ => ⟨k reply, Event.book ⟨r, reply⟩ held⟩ :=
        funext fun _ => Function.update_self ..
      rwa [honly] at hstep

/-- A run that ends with nothing in its ledger leaves the directory as it was. -/
theorem directory_run (x : Surroundings) {p : Program α} {post : α → List Lock → Prop}
    (h : p.Balanced post []) (d : LockDirectory)
    (hpost : ∀ held, post (x.run p d).result held → held = []) :
    (x.run p d).directory = d := by
  obtain ⟨held, hreach⟩ := x.reachable_runIn p [] d []
  have hinitial : Pool.Consistent d post (Pool.initial d fun _ : Unit => p) :=
    Pool.consistent_initial d fun _ => h
  have hconsistent := hinitial.reachable hreach
  apply hconsistent.directory_eq
  intro _
  have hend : post (x.run p d).result held := hconsistent.post_of_done (i := ()) rfl
  exact hpost held hend

end Surroundings

end TtpConformance
