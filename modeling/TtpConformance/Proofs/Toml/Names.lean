import TtpConformance.Proofs.Settings.Paths
import TtpConformance.Toml.Reader

/-!
# Names in a TOML text

A statement changes what a name of the outermost table stands for, or adds a name that is
new.  So that table has no name twice, however long the text is, and what a name stands for
does not depend on which of its entries is looked at.

## Main statements

* `Branch.nodup_of_alter?` — one change to a table.
* `Draft.nodup_of_add?`, `nodup_of_foldlM_add?` — one statement, and the statements of a text.
* `nodup_of_read?` — the table that a text writes.
-/

namespace TtpConformance.Toml

namespace Branch

/-- The names of a table under construction, in order. -/
def names (entries : Branch) : List String := entries.map Prod.fst

variable {name : String} {change : Option Node → Option Node} {entries entries' : Branch}

/-- A change keeps the names, or adds one that is new. -/
theorem adds_of_alter? (h : alter? name change entries = some entries') :
    Adds name entries.names entries'.names := by
  induction entries generalizing entries' with
  | nil =>
      obtain ⟨node, -, rfl⟩ := Option.map_eq_some_iff.mp h
      exact .inr ⟨List.not_mem_nil, rfl⟩
  | cons entry entries ih =>
      obtain ⟨other, node⟩ := entry
      rw [alter?] at h
      split at h
      · obtain ⟨node', -, rfl⟩ := Option.map_eq_some_iff.mp h
        exact .inl rfl
      · rename_i hother
        obtain ⟨rest, hrest, rfl⟩ := Option.map_eq_some_iff.mp h
        exact (ih hrest).cons hother

theorem nodup_of_alter? (h : alter? name change entries = some entries')
    (hnodup : entries.names.Nodup) : entries'.names.Nodup :=
  (adds_of_alter? h).nodup hnodup

theorem nodup_of_assign? {value : Setting} {below : List String}
    (h : assign? value name below entries = some entries') (hnodup : entries.names.Nodup) :
    entries'.names.Nodup := by
  cases below with
  | nil => exact nodup_of_alter? h hnodup
  | cons next below =>
      rw [assign?] at h
      exact nodup_of_alter? h hnodup

/-- A change at the end of a path touches the outermost table if the path is empty, and what
one of its names stands for otherwise. -/
theorem nodup_of_within? {change : Branch → Option Branch} {path : List String}
    (hchange : ∀ inner inner', change inner = some inner' → inner.names.Nodup →
      inner'.names.Nodup)
    (h : within? change path entries = some entries') (hnodup : entries.names.Nodup) :
    entries'.names.Nodup := by
  cases path with
  | nil => exact hchange entries entries' h hnodup
  | cons name path =>
      rw [within?] at h
      exact nodup_of_alter? h hnodup

theorem names_close (entries : Branch) : (close entries).map Prod.fst = entries.names := by
  induction entries with
  | nil => rfl
  | cons entry entries ih => exact congrArg (entry.1 :: ·) ih

end Branch

/-- A statement leaves the outermost table without a name twice. -/
theorem Draft.nodup_of_add? {draft draft' : Draft} {statement : Statement}
    (h : draft.add? statement = some draft') (hnodup : draft.root.names.Nodup) :
    draft'.root.names.Nodup := by
  cases statement with
  | pair key value =>
      obtain ⟨root, hroot, rfl⟩ := Option.map_eq_some_iff.mp h
      exact Branch.nodup_of_within? (fun _ _ => Branch.nodup_of_assign?) hroot hnodup
  | openTable key =>
      obtain ⟨root, hroot, rfl⟩ := Option.map_eq_some_iff.mp h
      exact Branch.nodup_of_within? (fun _ _ => Branch.nodup_of_alter?) hroot hnodup
  | openItem key =>
      obtain ⟨root, hroot, rfl⟩ := Option.map_eq_some_iff.mp h
      exact Branch.nodup_of_within? (fun _ _ => Branch.nodup_of_alter?) hroot hnodup

theorem nodup_of_foldlM_add? {statements : List Statement} {draft draft' : Draft}
    (h : statements.foldlM Draft.add? draft = some draft') (hnodup : draft.root.names.Nodup) :
    draft'.root.names.Nodup := by
  induction statements generalizing draft with
  | nil =>
      cases h
      exact hnodup
  | cons statement statements ih =>
      rw [List.foldlM_cons] at h
      obtain ⟨next, hnext, hrest⟩ := Option.bind_eq_some_iff.mp h
      exact ih hrest (Draft.nodup_of_add? hnext hnodup)

/-- The table that a text writes has no name twice. -/
theorem nodup_of_read? {text : String} {table : SettingTable} (h : read? text = some table) :
    (table.map Prod.fst).Nodup := by
  obtain ⟨draft, hdraft, rfl⟩ := Option.map_eq_some_iff.mp h
  obtain ⟨statements, -, hfold⟩ := Option.bind_eq_some_iff.mp hdraft
  rw [Branch.names_close]
  exact nodup_of_foldlM_add? hfold List.nodup_nil

end TtpConformance.Toml
