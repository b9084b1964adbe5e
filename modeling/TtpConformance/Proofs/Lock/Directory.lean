import TtpConformance.Lock.Directory

/-!
# Lock files

What the two steps on the lock directory do to the names in it.  A lock can only
be taken under a plain name, and which names those are does not depend on the
files that are there; taking one adds its name, and giving back one that is there
removes it.

## Main statements

* `isPlain_withNames` — the files of a directory do not decide what is a plain name.
* `create_eq_ok_iff` — making a file.
* `acquire_cases` — the only two outcomes of taking a lock.
* `release_of_mem` — a lock file that is there can be given back.
-/

namespace TtpConformance.LockDirectory

/-- The same directory with other files in it. -/
def withNames (d : LockDirectory) (names : List String) : LockDirectory := { d with names }

@[simp] theorem names_withNames (d : LockDirectory) (names : List String) :
    (d.withNames names).names = names := rfl

@[simp] theorem withNames_withNames (d : LockDirectory) (names names' : List String) :
    (d.withNames names).withNames names' = d.withNames names' := rfl

@[simp] theorem withNames_self (d : LockDirectory) : d.withNames d.names = d := rfl

/-- A plain name of a directory: one that a file in it may have. -/
def IsPlain (d : LockDirectory) (name : String) : Prop := d.locate name = .ok ()

theorem isPlain_iff {d : LockDirectory} {name : String} :
    d.IsPlain name ↔
      name.toList.contains (Char.ofNat 0) = false ∧ d.exists? = true ∧
        ¬ maxNameLength < (String.ofList (name.toList.takeWhile (· != '/'))).utf8ByteSize ∧
        (name.toList.dropWhile (· != '/')).isEmpty = true := by
  unfold IsPlain locate
  grind

/-- The files of a directory do not decide what is a plain name in it. -/
theorem isPlain_withNames {d : LockDirectory} {names : List String} {name : String} :
    (d.withNames names).IsPlain name ↔ d.IsPlain name := by
  rw [isPlain_iff, isPlain_iff]
  rfl

/-- Node names and lock files correspond. -/
theorem lockName_injective {a b : String} (h : lockName a = lockName b) : a = b := by
  have hlist := congrArg String.toList h
  simp only [lockName, String.toList_append, List.append_cancel_left_eq] at hlist
  exact String.toList_inj.mp hlist

theorem create_eq_ok_iff {d d' : LockDirectory} {name : String} :
    d.create name = .ok d' ↔
      d.IsPlain name ∧ name ∉ d.names ∧ d' = d.withNames (name :: d.names) := by
  unfold create IsPlain
  cases hplain : d.locate name with
  | error e => simp
  | ok u =>
      by_cases hmem : name ∈ d.names
      · simp [hmem]
      · simp [hmem, withNames, eq_comm]

theorem remove_of_mem {d : LockDirectory} {name : String} (hplain : d.IsPlain name)
    (hmem : name ∈ d.names) : d.remove name = .ok (d.withNames (d.names.erase name)) := by
  have hlocate : d.locate name = .ok () := hplain
  simp [remove, hlocate, hmem, withNames]

/-- Removing a file takes its name out of the directory, or fails, and not because it is
there. -/
theorem remove_cases (d : LockDirectory) (name : String) :
    d.remove name = .ok (d.withNames (d.names.erase name)) ∨
      ∃ reason, d.remove name = .error (.other reason) := by
  have hlocate : d.locate name = .ok () ∨ ∃ reason, d.locate name = .error (.other reason) := by
    unfold locate notFound notDirectory isDirectory nameTooLong unexpectedNul
    grind
  unfold remove
  rcases hlocate with hlocate | ⟨reason, hlocate⟩ <;> rw [hlocate]
  · dsimp only
    split
    · exact .inl rfl
    · exact .inr ⟨_, rfl⟩
  · exact .inr ⟨reason, rfl⟩

/-- Taking a lock either makes its file, which was not there, or fails and leaves
the directory as it is. -/
theorem acquire_cases {d d' : LockDirectory} {owner : String} {reply : Except RunError Lock}
    (h : d.acquire owner = (reply, d')) :
    (d.IsPlain (lockName owner) ∧ lockName owner ∉ d.names ∧
        reply = .ok ⟨d.lockPath owner, owner⟩ ∧
        d' = d.withNames (lockName owner :: d.names)) ∨
      ((∃ e, reply = .error e) ∧ d' = d) := by
  unfold acquire at h
  cases hcreate : d.create (lockName owner) with
  | ok made =>
      obtain ⟨hplain, hmem, rfl⟩ := create_eq_ok_iff.mp hcreate
      rw [hcreate] at h
      cases h
      exact .inl ⟨hplain, hmem, rfl, rfl⟩
  | error e =>
      rw [hcreate] at h
      cases e <;> cases h <;> exact .inr ⟨⟨_, rfl⟩, rfl⟩

/-- Giving a lock back either takes its file away, or fails and leaves the directory as it
is. -/
theorem release_cases {d d' : LockDirectory} {lock : Lock} {reply : Except RunError Unit}
    (h : d.release lock = (reply, d')) :
    (reply = .ok () ∧ d' = d.withNames (d.names.erase (lockName lock.owner))) ∨
      ((∃ e, reply = .error e) ∧ d' = d) := by
  unfold release at h
  rcases d.remove_cases (lockName lock.owner) with hremove | ⟨reason, hremove⟩
  · rw [hremove] at h
    cases h
    exact .inl ⟨rfl, rfl⟩
  · rw [hremove] at h
    cases h
    exact .inr ⟨⟨_, rfl⟩, rfl⟩

/-- A lock whose file is there can be given back, and then its file is gone. -/
theorem release_of_mem {d : LockDirectory} {lock : Lock} (hplain : d.IsPlain (lockName lock.owner))
    (hmem : lockName lock.owner ∈ d.names) :
    d.release lock = (.ok (), d.withNames (d.names.erase (lockName lock.owner))) := by
  simp [release, remove_of_mem hplain hmem]

end TtpConformance.LockDirectory
