import TtpConformance.Run.Command
import TtpConformance.RunError

/-!
# Programs

A run asks its surroundings for five things: to run a command, to run several at the same time, to
pause, to take a lock and to give one back. A `Program` is what remains of a run between two such
requests. It never looks at the world in any other way, so every behaviour of the surroundings can
be put beside it: the lab kept in memory, a lock directory, or an arbitrary one.

## Main definitions

* `Request`, `Request.Reply` — what is asked and what kind of answer it has.
* `Program` — a run, with its monad.
* `World`, `Program.runIn` — surroundings, and a run in them.
* `World.recording` — the same surroundings, with the list of all requests and replies.

## Main statements

* `runIn_done`, `runIn_bind` — a run in a world follows the program's structure.
-/

namespace TtpConformance

/-- Proof that a node is held by a run. -/
structure Lock where
  /-- Where the lock is. -/
  path : String
  /-- The host name of the locked node. -/
  owner : String
  deriving DecidableEq, Repr

/-- What a run asks of its surroundings. -/
inductive Request where
  /-- Run a command and wait for it. -/
  | command (host : Host) (command : Command)
  /-- Run commands at the same time and wait for all of them. -/
  | together (jobs : List (Host × Command))
  /-- Pause. -/
  | pause (length : Duration)
  /-- Take the lock of a node, or fail at once. -/
  | acquire (owner : String)
  /-- Give a lock back. -/
  | release (lock : Lock)
  deriving DecidableEq

/-- What became of one command: its output, or why it could not be started. -/
abbrev Execution := Except String Output

/--
The kinds of reply. Commands that run at the same time are answered in the order in which they
end, each with its position among the jobs; one whose task dies has no answer.
-/
abbrev Request.Reply : Request → Type
  | .command .. => Execution
  | .together _ => List (Nat × Execution)
  | .pause _ => Unit
  | .acquire _ => Except RunError Lock
  | .release _ => Except RunError Unit

/-- A run, up to its next request. -/
inductive Program (α : Type) where
  /-- The run has ended. -/
  | done (a : α)
  /-- The run asks for something and goes on with the reply. -/
  | ask (r : Request) (k : r.Reply → Program α)

namespace Program

variable {α β γ : Type}

/-- One program after the other. -/
protected def bind : Program α → (α → Program β) → Program β
  | .done a, f => f a
  | .ask r k, f => .ask r fun reply => (k reply).bind f

instance : Monad Program where
  pure := .done
  bind := Program.bind

/-- The program of one request. -/
def request (r : Request) : Program r.Reply := .ask r .done

@[simp] theorem pure_eq (a : α) : (pure a : Program α) = .done a := rfl

@[simp] theorem done_bind (a : α) (f : α → Program β) : (Program.done a >>= f) = f a := rfl

@[simp] theorem ask_bind (r : Request) (k : r.Reply → Program α) (f : α → Program β) :
    (Program.ask r k >>= f) = .ask r fun reply => k reply >>= f := rfl

theorem bind_done (p : Program α) : (p >>= Program.done) = p := by
  induction p with
  | done a => rfl
  | ask r k ih => rw [ask_bind]; exact congrArg _ (funext ih)

theorem bind_assoc (p : Program α) (f : α → Program β) (g : β → Program γ) :
    (p >>= f >>= g) = (p >>= fun a => f a >>= g) := by
  induction p with
  | done a => rfl
  | ask r k ih => rw [ask_bind, ask_bind, ask_bind]; exact congrArg _ (funext ih)

instance : LawfulMonad Program :=
  LawfulMonad.mk' Program bind_done (fun _ _ => rfl) bind_assoc

end Program

/-- Surroundings with states in `σ`: a reply to every request. -/
abbrev World (σ : Type) := (r : Request) → σ → r.Reply × σ

namespace Program

variable {α β σ : Type}

/-- A run in given surroundings: its result and the state that it leaves. -/
def runIn (world : World σ) : Program α → σ → α × σ
  | .done a, s => (a, s)
  | .ask r k, s =>
    let (reply, s) := world r s
    (k reply).runIn world s

@[simp] theorem runIn_done (world : World σ) (a : α) (s : σ) :
    (Program.done a).runIn world s = (a, s) := rfl

@[simp] theorem runIn_ask (world : World σ) (r : Request) (k : r.Reply → Program α) (s : σ) :
    (Program.ask r k).runIn world s = (k (world r s).1).runIn world (world r s).2 := rfl

theorem runIn_bind (world : World σ) (p : Program α) (f : α → Program β) (s : σ) :
    (p >>= f).runIn world s = (f (p.runIn world s).1).runIn world (p.runIn world s).2 := by
  induction p generalizing s with
  | done a => rfl
  | ask r k ih => rw [ask_bind, runIn_ask, runIn_ask, ih]

end Program

/-- A request and the reply that it got. -/
abbrev Event := (r : Request) × r.Reply

/-- The same surroundings, with all requests and replies so far, newest first. -/
def World.recording {σ : Type} (world : World σ) : World (σ × List Event) :=
  fun r (s, events) =>
    let (reply, s) := world r s
    (reply, s, ⟨r, reply⟩ :: events)

end TtpConformance
