import Mathlib.Data.List.Nodup
import Mathlib.Logic.Function.Basic
import Mathlib.Logic.Relation
import TtpConformance.Proofs.Lock.Directory
import TtpConformance.Proofs.Lock.Ledger

/-!
# Runs that share a lock directory

Any number of runs go on at the same time.  What they share is the lock directory,
and making or removing one file is the only step that is taken at once: between any
two such steps of a run, every other run may have taken any number of its own.

The argument is about balanced programs, whatever else they do.  One invariant
carries it: the files that the pool has made are exactly those of the locks in the
ledgers, each in one ledger and once.  Making a file keeps it because a file that is
there is not made again; removing one keeps it because a balanced run removes only
the file of a lock in its own ledger.

## Main definitions

* `Pool` — the directory, and the runs with their ledgers.
* `Pool.Step` — one request of one run.
* `Pool.Consistent` — the invariant.
* `HeldLocks.takeAndRelease` — a run that does nothing but take and give back locks.

## Main statements

* `Pool.Consistent.step` — every step keeps the invariant.
* `Pool.reachable_exclusive` — mutual exclusion, and no lock file is left behind.
-/

namespace TtpConformance

open Function (update)
open LockDirectory (lockName)

/-- What a directory answers to a request, and what is in it afterwards.  Only lock
requests touch it; what the others are answered is left open. -/
def LockDirectory.Answers (d : LockDirectory) :
    (r : Request) → r.Reply → LockDirectory → Prop
  | .acquire owner, reply, d' => d.acquire owner = (reply, d')
  | .release lock, reply, d' => d.release lock = (reply, d')
  | _, _, d' => d' = d

/-- A run in a pool: what it has still to do, and the locks that it holds. -/
structure PendingRun (α : Type) where
  program : Program α
  held : List Lock := []

/-- Runs that share a lock directory. -/
structure Pool (ι α : Type) where
  directory : LockDirectory
  runs : ι → PendingRun α

namespace Pool

variable {ι α : Type} {post : α → List Lock → Prop}

/-- A run holds the lock of a node. -/
def Holds (s : Pool ι α) (i : ι) (owner : String) : Prop :=
  ∃ lock ∈ (s.runs i).held, lock.owner = owner

/-- Every run has come to its end. -/
def Finished (s : Pool ι α) : Prop :=
  ∀ i, ∃ a, (s.runs i).program = .done a

/-- The pool at the start. -/
def initial (d : LockDirectory) (programs : ι → Program α) : Pool ι α where
  directory := d
  runs i := { program := programs i }

/-- One run asks for something and is answered. -/
inductive Step [DecidableEq ι] (s : Pool ι α) : Pool ι α → Prop where
  | ask (i : ι) (r : Request) (k : r.Reply → Program α) (reply : r.Reply) (d : LockDirectory)
      (hask : (s.runs i).program = .ask r k) (hanswer : s.directory.Answers r reply d) :
      Step s
        { directory := d
          runs := update s.runs i ⟨k reply, Event.book ⟨r, reply⟩ (s.runs i).held⟩ }

/-- What any order of steps can lead to. -/
def Reachable [DecidableEq ι] : Pool ι α → Pool ι α → Prop := Relation.ReflTransGen Step

/-! ## The invariant -/

/-- The files made since the start are those of the locks in the ledgers, and no
lock is in two ledgers or twice in one. -/
structure Consistent (d : LockDirectory) (post : α → List Lock → Prop) (s : Pool ι α) :
    Prop where
  balanced : ∀ i, (s.runs i).program.Balanced post (s.runs i).held
  plain : ∀ i, ∀ lock ∈ (s.runs i).held, d.IsPlain (lockName lock.owner)
  exclusive : ∀ i j owner, s.Holds i owner → s.Holds j owner → i = j
  nodup : ∀ i, ((s.runs i).held.map (·.owner)).Nodup
  directory : ∃ made, s.directory = d.withNames (made ++ d.names) ∧ made.Nodup ∧
    (∀ name ∈ made, name ∉ d.names) ∧
    ∀ name, name ∈ made ↔ ∃ i owner, s.Holds i owner ∧ name = lockName owner

theorem consistent_initial (d : LockDirectory) {programs : ι → Program α}
    (h : ∀ i, (programs i).Balanced post []) : Consistent d post (initial d programs) where
  balanced := h
  plain := by simp [initial]
  exclusive := by simp [initial, Holds]
  nodup := by simp [initial]
  directory := ⟨[], by simp [initial], List.nodup_nil, by simp, by simp [initial, Holds]⟩

section Consistency

variable {d : LockDirectory} {s : Pool ι α}

theorem Consistent.mem_names_iff (h : Consistent d post s) (owner : String) :
    lockName owner ∈ s.directory.names ↔
      lockName owner ∈ d.names ∨ ∃ i, s.Holds i owner := by
  obtain ⟨made, hdir, -, -, hmade⟩ := h.directory
  have hheld : lockName owner ∈ made ↔ ∃ i, s.Holds i owner := by
    rw [hmade]
    constructor
    · rintro ⟨i, owner', hi, hname⟩
      exact ⟨i, LockDirectory.lockName_injective hname ▸ hi⟩
    · rintro ⟨i, hi⟩
      exact ⟨i, owner, hi, rfl⟩
  rw [hdir, LockDirectory.names_withNames, List.mem_append, hheld, or_comm]

/-- A lock that is given back leaves the other locks of its ledger. -/
theorem Consistent.mem_erase_iff (h : Consistent d post s) {i : ι} {lock : Lock}
    (hlock : lock ∈ (s.runs i).held) {owner : String} :
    (∃ other ∈ (s.runs i).held.erase lock, other.owner = owner) ↔
      s.Holds i owner ∧ owner ≠ lock.owner := by
  have hinj := List.inj_on_of_nodup_map (h.nodup i)
  have hnodup := (h.nodup i).of_map
  constructor
  · rintro ⟨other, hother, rfl⟩
    have hmem := hnodup.mem_erase_iff.mp hother
    exact ⟨⟨other, hmem.2, rfl⟩, fun heq => hmem.1 (hinj hmem.2 hlock heq)⟩
  · rintro ⟨⟨other, hother, rfl⟩, hne⟩
    refine ⟨other, hnodup.mem_erase_iff.mpr ⟨?_, hother⟩, rfl⟩
    rintro rfl
    exact hne rfl

/-- With nothing left in the ledgers, the directory is as it was. -/
theorem Consistent.directory_eq (h : Consistent d post s)
    (hempty : ∀ i, (s.runs i).held = []) : s.directory = d := by
  obtain ⟨made, hdir, -, -, hmade⟩ := h.directory
  have hnil : made = [] := by
    apply List.eq_nil_iff_forall_not_mem.mpr
    intro name hname
    obtain ⟨i, owner, ⟨lock, hlock, -⟩, -⟩ := (hmade name).mp hname
    rw [hempty i] at hlock
    exact absurd hlock List.not_mem_nil
  rw [hdir, hnil]
  rfl

/-- A run that has come to its end has the ledger that it was to have. -/
theorem Consistent.post_of_done (h : Consistent d post s) {i : ι} {a : α}
    (hdone : (s.runs i).program = .done a) : post a (s.runs i).held := by
  have hbalanced := h.balanced i
  rwa [hdone] at hbalanced

end Consistency

/-! ## Steps -/

section Steps

variable [DecidableEq ι] {d dir : LockDirectory} {s s' : Pool ι α} {i : ι} {p : Program α}
  {held : List Lock}

/-- The pool after run `i` has got on. -/
def advance (s : Pool ι α) (i : ι) (p : Program α) (held : List Lock) (dir : LockDirectory) :
    Pool ι α where
  directory := dir
  runs := update s.runs i ⟨p, held⟩

theorem runs_advance_self : (s.advance i p held dir).runs i = ⟨p, held⟩ := by
  simp [advance]

theorem runs_advance_of_ne {j : ι} (hj : j ≠ i) :
    (s.advance i p held dir).runs j = s.runs j := by
  simp [advance, hj]

theorem holds_advance_iff {j : ι} {owner : String} :
    (s.advance i p held dir).Holds j owner ↔
      (j = i ∧ ∃ lock ∈ held, lock.owner = owner) ∨ (j ≠ i ∧ s.Holds j owner) := by
  by_cases hj : j = i
  · subst hj
    simp [Holds, runs_advance_self]
  · simp [Holds, runs_advance_of_ne hj, hj]

/-- What run `i` has to see to, so that the others are not disturbed. -/
theorem Consistent.advance (h : Consistent d post s) (hp : p.Balanced post held)
    (hplain : ∀ lock ∈ held, d.IsPlain (lockName lock.owner))
    (hexclusive : ∀ lock ∈ held, ∀ j ≠ i, ¬ s.Holds j lock.owner)
    (hnodup : (held.map (·.owner)).Nodup)
    (hdir : ∃ made, dir = d.withNames (made ++ d.names) ∧ made.Nodup ∧
      (∀ name ∈ made, name ∉ d.names) ∧
      ∀ name, name ∈ made ↔ ∃ j owner,
        ((j = i ∧ ∃ lock ∈ held, lock.owner = owner) ∨ (j ≠ i ∧ s.Holds j owner)) ∧
          name = lockName owner) :
    Consistent d post (s.advance i p held dir) := by
  constructor
  case balanced =>
    intro j
    by_cases hj : j = i
    · subst hj
      rwa [runs_advance_self]
    · rw [runs_advance_of_ne hj]
      exact h.balanced j
  case plain =>
    intro j
    by_cases hj : j = i
    · subst hj
      rwa [runs_advance_self]
    · rw [runs_advance_of_ne hj]
      exact h.plain j
  case exclusive =>
    intro j k owner hj hk
    rcases holds_advance_iff.mp hj with ⟨rfl, lock, hlock, rfl⟩ | ⟨hji, hj'⟩
    · rcases holds_advance_iff.mp hk with ⟨rfl, -⟩ | ⟨hki, hk'⟩
      · rfl
      · exact absurd hk' (hexclusive lock hlock k hki)
    · rcases holds_advance_iff.mp hk with ⟨rfl, lock, hlock, rfl⟩ | ⟨-, hk'⟩
      · exact absurd hj' (hexclusive lock hlock j hji)
      · exact h.exclusive j k owner hj' hk'
  case nodup =>
    intro j
    by_cases hj : j = i
    · subst hj
      rwa [runs_advance_self]
    · rw [runs_advance_of_ne hj]
      exact h.nodup j
  case directory =>
    obtain ⟨made, rfl, hmade⟩ := hdir
    exact ⟨made, rfl, by simpa only [holds_advance_iff] using hmade⟩

/-- A run whose ledger stays as it is. -/
theorem Consistent.advance_same (h : Consistent d post s)
    (hp : p.Balanced post (s.runs i).held) :
    Consistent d post (s.advance i p (s.runs i).held s.directory) := by
  refine h.advance hp (h.plain i) (fun lock hlock j hj hholds => ?_) (h.nodup i) ?_
  · exact hj (h.exclusive j i lock.owner hholds ⟨lock, hlock, rfl⟩)
  · obtain ⟨made, hdir, hnodup, hnew, hmade⟩ := h.directory
    refine ⟨made, hdir, hnodup, hnew, fun name => (hmade name).trans ?_⟩
    refine exists_congr fun j => exists_congr fun owner => and_congr_left fun _ => ?_
    by_cases hj : j = i
    · subst hj; simp [Holds]
    · simp [hj]

/-- A run that takes a lock. -/
theorem Consistent.advance_acquire (h : Consistent d post s) (lock : Lock)
    (hplain : d.IsPlain (lockName lock.owner)) (hfree : lockName lock.owner ∉ s.directory.names)
    (hp : p.Balanced post (lock :: (s.runs i).held)) :
    Consistent d post (s.advance i p (lock :: (s.runs i).held)
      (s.directory.withNames (lockName lock.owner :: s.directory.names))) := by
  have hnone : lockName lock.owner ∉ d.names ∧ ∀ j, ¬ s.Holds j lock.owner := by
    rw [h.mem_names_iff, not_or, not_exists] at hfree
    exact hfree
  refine h.advance hp ?_ ?_ ?_ ?_
  · intro other hother
    rcases List.mem_cons.mp hother with rfl | hother
    · exact hplain
    · exact h.plain i other hother
  · intro other hother j hj hholds
    rcases List.mem_cons.mp hother with rfl | hother
    · exact hnone.2 j hholds
    · exact hj (h.exclusive j i other.owner hholds ⟨other, hother, rfl⟩)
  · rw [List.map_cons, List.nodup_cons]
    exact ⟨fun hmem => hnone.2 i (List.mem_map.mp hmem), h.nodup i⟩
  · obtain ⟨made, hdir, hnodup, hnew, hmade⟩ := h.directory
    refine ⟨lockName lock.owner :: made, by rw [hdir]; rfl, ?_, ?_, fun name => ?_⟩
    · refine List.nodup_cons.mpr ⟨fun hmem => ?_, hnodup⟩
      rw [hdir, LockDirectory.names_withNames] at hfree
      exact hfree (List.mem_append_left _ hmem)
    · intro name hname
      rcases List.mem_cons.mp hname with rfl | hname
      · exact hnone.1
      · exact hnew name hname
    · rw [List.mem_cons, hmade]
      constructor
      · rintro (rfl | ⟨j, owner, hj, rfl⟩)
        · exact ⟨i, lock.owner, .inl ⟨rfl, lock, List.mem_cons_self, rfl⟩, rfl⟩
        · by_cases hji : j = i
          · subst hji
            obtain ⟨other, hother, rfl⟩ := hj
            exact ⟨j, other.owner, .inl ⟨rfl, other, List.mem_cons_of_mem _ hother, rfl⟩, rfl⟩
          · exact ⟨j, owner, .inr ⟨hji, hj⟩, rfl⟩
      · rintro ⟨j, owner, ⟨rfl, other, hother, rfl⟩ | ⟨-, hj⟩, rfl⟩
        · rcases List.mem_cons.mp hother with rfl | hother
          · exact .inl rfl
          · exact .inr ⟨j, other.owner, ⟨other, hother, rfl⟩, rfl⟩
        · exact .inr ⟨j, owner, hj, rfl⟩

/-- A run that gives a lock back. -/
theorem Consistent.advance_release (h : Consistent d post s) {lock : Lock}
    (hlock : lock ∈ (s.runs i).held)
    (hp : p.Balanced post ((s.runs i).held.erase lock)) :
    Consistent d post (s.advance i p ((s.runs i).held.erase lock)
      (s.directory.withNames (s.directory.names.erase (lockName lock.owner)))) := by
  have hsub : ∀ other ∈ (s.runs i).held.erase lock, other ∈ (s.runs i).held :=
    fun other hother => List.mem_of_mem_erase hother
  refine h.advance hp (fun other hother => h.plain i other (hsub other hother)) ?_ ?_ ?_
  · intro other hother j hj hholds
    exact hj (h.exclusive j i other.owner hholds ⟨other, hsub other hother, rfl⟩)
  · exact (h.nodup i).sublist (List.erase_sublist.map _)
  · obtain ⟨made, hdir, hnodup, hnew, hmade⟩ := h.directory
    have hmem : lockName lock.owner ∈ made :=
      (hmade _).mpr ⟨i, lock.owner, ⟨lock, hlock, rfl⟩, rfl⟩
    refine ⟨made.erase (lockName lock.owner), ?_, hnodup.erase _, ?_, fun name => ?_⟩
    · rw [hdir, LockDirectory.names_withNames, LockDirectory.withNames_withNames,
        List.erase_append_left _ hmem]
    · exact fun name hname => hnew name (List.mem_of_mem_erase hname)
    · rw [hnodup.mem_erase_iff, hmade]
      constructor
      · rintro ⟨hne, j, owner, hj, rfl⟩
        have howner : owner ≠ lock.owner := fun heq => hne (heq ▸ rfl)
        by_cases hji : j = i
        · subst hji
          exact ⟨j, owner, .inl ⟨rfl, (h.mem_erase_iff hlock).mpr ⟨hj, howner⟩⟩, rfl⟩
        · exact ⟨j, owner, .inr ⟨hji, hj⟩, rfl⟩
      · rintro ⟨j, owner, ⟨rfl, hother⟩ | ⟨hji, hj⟩, rfl⟩
        · obtain ⟨hj, hne⟩ := (h.mem_erase_iff hlock).mp hother
          exact ⟨fun heq => hne (LockDirectory.lockName_injective heq), j, owner, hj, rfl⟩
        · refine ⟨fun heq => hji ?_, j, owner, hj, rfl⟩
          have howner := LockDirectory.lockName_injective heq
          exact h.exclusive j i owner hj ⟨lock, hlock, howner.symm⟩

/-- Every step of every run keeps the invariant. -/
theorem Consistent.step (h : Consistent d post s) (hstep : Step s s') :
    Consistent d post s' := by
  obtain ⟨i, r, k, reply, dir, hask, hanswer⟩ := hstep
  have hbalanced := h.balanced i
  rw [hask] at hbalanced
  obtain ⟨hbacked, hrest⟩ := hbalanced
  obtain ⟨made, hmade, -⟩ := h.directory
  cases r with
  | command | together | pause =>
      obtain rfl : dir = s.directory := hanswer
      exact h.advance_same (hrest reply)
  | acquire owner =>
      rcases LockDirectory.acquire_cases hanswer with
        ⟨hplain, hfree, rfl, rfl⟩ | ⟨⟨e, rfl⟩, rfl⟩
      · rw [hmade, LockDirectory.isPlain_withNames] at hplain
        exact h.advance_acquire ⟨s.directory.lockPath owner, owner⟩ hplain hfree (hrest _)
      · exact h.advance_same (hrest _)
  | release lock =>
      have hplain : s.directory.IsPlain (lockName lock.owner) := by
        rw [hmade, LockDirectory.isPlain_withNames]
        exact h.plain i lock hbacked
      have hmem : lockName lock.owner ∈ s.directory.names :=
        (h.mem_names_iff lock.owner).mpr (.inr ⟨i, lock, hbacked, rfl⟩)
      have hgone := (LockDirectory.release_of_mem hplain hmem).symm.trans hanswer
      cases hgone
      exact h.advance_release hbacked (hrest _)

/-- What any order of steps leads to is consistent. -/
theorem Consistent.reachable (h : Consistent d post s) (hreach : Reachable s s') :
    Consistent d post s' := by
  induction hreach with
  | refl => exact h
  | tail _ hstep ih => exact ih.step hstep

end Steps

/-! ## Mutual exclusion -/

/-- Runs that are balanced from nothing to nothing exclude each other and leave no
lock file behind, in every order of their steps. -/
theorem exclusive_of_balanced [DecidableEq ι] {d : LockDirectory} {programs : ι → Program α}
    (hprograms : ∀ i, (programs i).Balanced (fun _ held => held = []) []) {s : Pool ι α}
    (hreach : Reachable (initial d programs) s) :
    (∀ i j owner, s.Holds i owner → s.Holds j owner → i = j) ∧
      (∀ i, ((s.runs i).held.map (·.owner)).Nodup) ∧
      (∀ owner, lockName owner ∈ s.directory.names ↔
        lockName owner ∈ d.names ∨ ∃! i, s.Holds i owner) ∧
      (s.Finished → s.directory = d) := by
  have h := (consistent_initial d hprograms).reachable hreach
  refine ⟨h.exclusive, h.nodup, ?_, ?_⟩
  · intro owner
    rw [h.mem_names_iff]
    refine or_congr_right ⟨?_, ExistsUnique.exists⟩
    rintro ⟨i, hi⟩
    exact ⟨i, hi, fun j hj => h.exclusive j i owner hj hi⟩
  · intro hfinished
    apply h.directory_eq
    intro i
    obtain ⟨a, ha⟩ := hfinished i
    exact h.post_of_done ha

end Pool

namespace HeldLocks

/-- A run that takes its locks as one and, whenever it comes to that, gives them
back. -/
def takeAndRelease (self : String) (peer : Option String) : Program (Except RunError Unit) := do
  match ← acquire self peer with
  | .error e => return .error e
  | .ok held =>
    held.release
    return .ok ()

theorem takeAndRelease_balanced (self : String) (peer : Option String) :
    (takeAndRelease self peer).Balanced (fun _ held => held = []) [] := by
  apply (acquire_balanced self peer []).bind
  intro result held hheld
  cases result with
  | error e => exact hheld
  | ok locks =>
      rw [hheld]
      exact (release_balanced locks []).bind fun _ _ h => h

end HeldLocks

/--
Mutual exclusion, and no leaked lock, for any number of runs that take the locks of
their two nodes and later give them back, in any order of their steps.  A node's lock
file is there exactly while one run holds it, which includes a run that still waits
for its second lock; nobody holds a lock twice over; and when all runs have failed or
let go, the directory is as it was.

Nothing is assumed of the node names: two runs may name the same nodes in opposite
orders, a run may name one node twice, and a name that is no file name never gets a
lock.
-/
theorem Pool.reachable_exclusive {ι : Type} [DecidableEq ι] (self : ι → String)
    (peer : ι → Option String) (d : LockDirectory) {s : Pool ι (Except RunError Unit)}
    (hreach : Reachable (initial d fun i => HeldLocks.takeAndRelease (self i) (peer i)) s) :
    (∀ i j owner, s.Holds i owner → s.Holds j owner → i = j) ∧
      (∀ i, ((s.runs i).held.map (·.owner)).Nodup) ∧
      (∀ owner, lockName owner ∈ s.directory.names ↔
        lockName owner ∈ d.names ∨ ∃! i, s.Holds i owner) ∧
      (s.Finished → s.directory = d) :=
  exclusive_of_balanced (fun i => HeldLocks.takeAndRelease_balanced (self i) (peer i)) hreach

/-- Two runs that ask for the same nodes in opposite orders. -/
def Pool.crossing : Pool Bool (Except RunError Unit) :=
  initial { path := "/locks", names := ["README"] } fun i =>
    HeldLocks.takeAndRelease (bif i then "node-01" else "node-0a")
      (some (bif i then "node-0a" else "node-01"))

/-- Crossing runs after each has its first lock and one of them has been refused its
second. -/
theorem Pool.reachable_exclusive_crossing :
    ∃ s, Reachable crossing s ∧ s.Holds true "node-01" ∧ s.Holds false "node-0a" ∧
      (∀ i j owner, s.Holds i owner → s.Holds j owner → i = j) ∧
      (∀ i, ((s.runs i).held.map (·.owner)).Nodup) ∧
      (∀ owner, lockName owner ∈ s.directory.names ↔
        lockName owner ∈ crossing.directory.names ∨ ∃! i, s.Holds i owner) ∧
      (s.Finished → s.directory = crossing.directory) := by
  have h₀ : Reachable crossing crossing := .refl
  have h₁ := h₀.tail (Step.ask true (.acquire "node-01") _ _ _ rfl rfl)
  have h₂ := h₁.tail (Step.ask false (.acquire "node-0a") _ _ _ rfl rfl)
  have h₃ := h₂.tail (Step.ask true (.acquire "node-0a") _ _ _ rfl rfl)
  refine ⟨_, h₃, ⟨_, List.mem_cons_self, rfl⟩, ⟨_, List.mem_cons_self, rfl⟩, ?_⟩
  exact reachable_exclusive _ _ _ h₃

end TtpConformance
