import TtpConformance.Proofs.Lock.Ledger

/-!
# What a trace has brought about

A command either only looks, or it changes a node.  Which modules are loaded and which
locks are held is what a run has brought about in the end, and both can be read off its
trace: a module is loaded by a load command that has ended well, and unloading counts
however it ends, since a run never tries twice.

## Main definitions

* `Command.changesState` — the commands that change a node.
* `Request.jobs` — the commands of a request.
* `Request.IsQuery`, `Request.IsWork` — requests that only look, and requests that
  neither load nor unload a module nor concern a lock.
* `Command.opensFiles`, `Trace.selfFiles` — the commands that open files of a node.
* `Trace.loaded`, `Trace.unloaded`, `Trace.held` — what a trace has brought about.
* `Trace.Preceded` — an order between events of two kinds.

## Main statements

* `Trace.loaded_eq_nil`, `Trace.unloaded_eq_nil`, `Trace.held_eq_nil` — nothing at all,
  for traces without the requests in question.
-/

namespace TtpConformance

/-- Whether a command changes the node that it runs on.  A command line of somebody
else may do anything. -/
def Command.changesState : Command → Bool
  | .loadModule .. | .unloadModule _ | .writeFile .. | .copyFile .. | .writeText ..
  | .sendFrames _ | .shell _ => true
  | .hostname | .linkInfo _ | .addressInfo _ | .testCharDevice _ | .testLink _
  | .testProgram _ | .readFile _ | .compareFiles .. => false

/-- Whether a command opens files of the node, other than a module that it loads.  A
command line of somebody else may. -/
def Command.opensFiles : Command → Bool
  | .readFile _ | .writeFile .. | .copyFile .. | .compareFiles .. | .writeText ..
  | .sendFrames _ | .shell _ => true
  | .hostname | .linkInfo _ | .addressInfo _ | .testCharDevice _ | .testLink _
  | .testProgram _ | .loadModule .. | .unloadModule _ => false

namespace Request

/-- Whether a request opens files of the local node. -/
def opensSelfFiles : Request → Bool
  | .command .self c => c.opensFiles
  | .together jobs => jobs.any fun (host, c) => host == .self && c.opensFiles
  | _ => false

/-- The commands that a request runs, with the hosts that they run on. -/
def jobs : Request → List (Host × Command)
  | .command host c => [(host, c)]
  | .together jobs => jobs
  | .pause _ | .acquire _ | .release _ => []

/-- A command that only looks. -/
def IsQuery : Request → Prop
  | .command _ c => c.changesState = false
  | _ => False

/-- A pause, or a command that neither loads nor unloads a module. -/
def IsWork : Request → Prop
  | .command _ (.loadModule ..) | .command _ (.unloadModule _) => False
  | .command .. | .pause _ => True
  | _ => False

theorem IsQuery.changesState_of_jobs {r : Request} (h : r.IsQuery) :
    ∀ job ∈ r.jobs, job.2.changesState = false := by
  cases r with
  | command host command =>
      intro job hjob
      obtain rfl := List.mem_singleton.mp hjob
      exact h
  | together | pause | acquire | release => exact h.elim

theorem IsQuery.isWork {r : Request} (h : r.IsQuery) : r.IsWork := by
  cases r with
  | command host command => cases command <;> trivial
  | together | pause | acquire | release => exact h.elim

theorem IsWork.lockFree {r : Request} (h : r.IsWork) : r.lockFree := by
  cases r with
  | command | pause | together => trivial
  | acquire | release => exact h

end Request

/-- The host on which an event has loaded a module. -/
def Event.loadedOn? : Event → Option Host
  | ⟨.command host (.loadModule ..), .ok output⟩ =>
    if output.succeeded then some host else none
  | _ => none

/-- The host on which an event was meant to unload a module. -/
def Event.unloadedOn? : Event → Option Host
  | ⟨.command host (.unloadModule _), _⟩ => some host
  | _ => none

/-- Work neither loads a module nor unloads one. -/
theorem Event.hosts_of_isWork {event : Event} (h : event.1.IsWork) :
    event.loadedOn? = none ∧ event.unloadedOn? = none := by
  obtain ⟨r, reply⟩ := event
  cases r with
  | command host command => cases command <;> first | exact ⟨rfl, rfl⟩ | exact h.elim
  | together | pause | acquire | release => exact ⟨rfl, rfl⟩

/-- What has loaded a module on a host is a load there. -/
theorem Event.load_of_loadedOn?_eq_some {event : Event} {host : Host}
    (h : event.loadedOn? = some host) :
    ∃ path arguments, event.1 = .command host (.loadModule path arguments) := by
  unfold loadedOn? at h
  split at h
  · split at h
    · cases h
      exact ⟨_, _, rfl⟩
    · cases h
  · cases h

namespace Trace

/-- The hosts on which a module was loaded, in order. -/
def loaded (events : List Event) : List Host := events.filterMap Event.loadedOn?

/-- The hosts on which a module was to be unloaded, in order. -/
def unloaded (events : List Event) : List Host := events.filterMap Event.unloadedOn?

/-- What has opened files of the local node, in order. -/
def selfFiles (events : List Event) : List Event := events.filter (·.1.opensSelfFiles)

/-- The locks that are held at the end, newest first. -/
def held (events : List Event) : List Lock :=
  events.foldl (fun held event => event.book held) []

@[simp] theorem loaded_append (events events' : List Event) :
    loaded (events ++ events') = loaded events ++ loaded events' :=
  List.filterMap_append

@[simp] theorem unloaded_append (events events' : List Event) :
    unloaded (events ++ events') = unloaded events ++ unloaded events' :=
  List.filterMap_append

@[simp] theorem selfFiles_append (events events' : List Event) :
    selfFiles (events ++ events') = selfFiles events ++ selfFiles events' :=
  List.filter_append events events'

variable {events events' : List Event}

theorem selfFiles_eq_nil (h : ∀ event ∈ events, event.1.opensSelfFiles = false) :
    selfFiles events = [] :=
  List.filter_eq_nil_iff.mpr fun event hevent => by simp [h event hevent]

theorem isWork_of_isQuery (h : ∀ event ∈ events, event.1.IsQuery) :
    ∀ event ∈ events, event.1.IsWork := fun event hevent => (h event hevent).isWork

theorem lockFree_of_isWork (h : ∀ event ∈ events, event.1.IsWork) :
    ∀ event ∈ events, event.1.lockFree := fun event hevent => (h event hevent).lockFree

theorem loaded_eq_nil (h : ∀ event ∈ events, event.1.IsWork) : loaded events = [] :=
  List.filterMap_eq_nil_iff.mpr fun event hevent => (Event.hosts_of_isWork (h event hevent)).1

theorem unloaded_eq_nil (h : ∀ event ∈ events, event.1.IsWork) : unloaded events = [] :=
  List.filterMap_eq_nil_iff.mpr fun event hevent => (Event.hosts_of_isWork (h event hevent)).2

theorem foldl_book_of_lockFree (h : ∀ event ∈ events, event.1.lockFree) (held : List Lock) :
    events.foldl (fun held event => event.book held) held = held := by
  induction events with
  | nil => rfl
  | cons event events ih =>
      rw [List.foldl_cons, Event.book_of_lockFree (h event List.mem_cons_self)]
      exact ih fun other hother => h other (List.mem_cons_of_mem event hother)

theorem held_eq_nil (h : ∀ event ∈ events, event.1.lockFree) : held events = [] :=
  foldl_book_of_lockFree h []

/-- Nothing that comes before the locks, and nothing that happens under them, changes
which locks are held. -/
theorem held_append_of_lockFree (h : ∀ event ∈ events, event.1.lockFree) :
    held (events ++ events') = held events' := by
  rw [held, List.foldl_append, foldl_book_of_lockFree h]
  rfl

theorem held_append_lockFree (h : ∀ event ∈ events', event.1.lockFree) :
    held (events ++ events') = held events := by
  rw [held, List.foldl_append, foldl_book_of_lockFree h]
  rfl

theorem request_mem_of_map_eq {requests : List Request} (h : events.map Sigma.fst = requests)
    {event : Event} (hevent : event ∈ events) : event.1 ∈ requests :=
  h ▸ List.mem_map_of_mem hevent

/-- Giving locks back neither loads nor unloads a module. -/
theorem loaded_unloaded_of_releases {locks : List Lock}
    (h : events.map Sigma.fst = locks.map .release) :
    loaded events = [] ∧ unloaded events = [] := by
  have hnone : ∀ event ∈ events, event.loadedOn? = none ∧ event.unloadedOn? = none := by
    intro event hevent
    obtain ⟨lock, -, hlock⟩ := List.mem_map.mp (request_mem_of_map_eq h hevent)
    obtain ⟨r, reply⟩ := event
    obtain rfl : .release lock = r := hlock
    exact ⟨rfl, rfl⟩
  exact ⟨List.filterMap_eq_nil_iff.mpr fun event hevent => (hnone event hevent).1,
    List.filterMap_eq_nil_iff.mpr fun event hevent => (hnone event hevent).2⟩

/-! ## Order -/

/-- Before the first event of one kind there is one of another kind. -/
def Preceded (later earlier : Event → Prop) (events : List Event) : Prop :=
  ∀ before event after, events = before ++ event :: after → later event →
    ∃ event' ∈ before, earlier event'

variable {later earlier : Event → Prop}

theorem preceded_of_forall_not (h : ∀ event ∈ events, ¬ later event) :
    Preceded later earlier events := by
  rintro before event after rfl hlater
  exact absurd hlater (h event (List.mem_append_right before List.mem_cons_self))

/-- One trace after the other keeps the order if each does, or if the first one has an
event of the earlier kind. -/
theorem Preceded.append (h : Preceded later earlier events)
    (h' : (∃ event ∈ events, earlier event) ∨ Preceded later earlier events') :
    Preceded later earlier (events ++ events') := by
  intro before event after heq hlater
  rcases List.append_eq_append_iff.mp heq with
    ⟨middle, rfl, hmiddle⟩ | ⟨middle, rfl, hmiddle⟩
  · -- the event is in the second trace
    rcases h' with ⟨event', hmem, hearlier⟩ | h'
    · exact ⟨event', List.mem_append_left middle hmem, hearlier⟩
    · obtain ⟨event', hmem, hearlier⟩ := h' middle event after hmiddle hlater
      exact ⟨event', List.mem_append_right events hmem, hearlier⟩
  · cases middle with
    | nil =>
        rw [List.append_nil] at h h'
        rcases h' with hmem | h'
        · exact hmem
        · obtain ⟨event', hmem, -⟩ := h' [] event after hmiddle.symm hlater
          cases hmem
    | cons first middle =>
        -- the event is in the first trace
        injection hmiddle with hfirst _
        subst hfirst
        exact h before event middle rfl hlater

end Trace

end TtpConformance
