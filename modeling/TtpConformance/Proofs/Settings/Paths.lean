import Mathlib.Data.List.Infix
import Mathlib.Data.List.Nodup
import TtpConformance.Settings.Value

/-!
# Values at the ends of paths

A table is looked into along a path of names.  What a table gives once another one is laid
over it is decided path by path: the value of the upper table if it has one, the value of
the lower one otherwise.  That is so where nothing but tables is on the way in the upper
one, for a value that is no table covers everything that was below its name.

A table that holds one value at the end of a path touches no path that parts from that
one.  Laid over another table it can only add tables on the way.

## Main definitions

* `SettingTable.at?` — the value at the end of a path.
* `Apart` — paths neither of which leads on from the other.
* `SettingTable.Clear` — nothing but tables, with no name twice, on the way along a path.

## Main statements

* `SettingTable.at?_over` — one table over another, path by path.
* `at?_nest_over_of_apart`, `at?_nest_over_self` — one value over a table.
* `Clear.nest_over` — what stays clear under one more value.
-/

namespace TtpConformance

/-! ## Names -/

/-- A name goes to the end of a list of names, unless it is one of them. -/
def Adds (name : String) (names names' : List String) : Prop :=
  names' = names ∨ name ∉ names ∧ names' = names ++ [name]

theorem Adds.cons {name other : String} {names names' : List String} (hne : other ≠ name)
    (h : Adds name names names') : Adds name (other :: names) (other :: names') := by
  rcases h with rfl | ⟨hnew, rfl⟩
  · exact .inl rfl
  · exact .inr ⟨List.not_mem_cons_of_ne_of_not_mem (Ne.symm hne) hnew, rfl⟩

theorem Adds.nodup {name : String} {names names' : List String} (h : Adds name names names')
    (hnodup : names.Nodup) : names'.Nodup := by
  rcases h with rfl | ⟨hnew, rfl⟩
  · exact hnodup
  · exact List.concat_eq_append ▸ hnodup.concat hnew

/-! ## Looking tables up -/

theorem Setting.over_none (v : Setting) : v.over none = v := by cases v <;> rfl

namespace SettingTable

/-- The names in order. -/
def names (t : SettingTable) : List String := t.map Prod.fst

/-- The value at the end of a path, whose first name is given apart. -/
def at? (t : SettingTable) (first : String) : (below : List String) → Option Setting
  | [] => t.get? first
  | next :: below =>
    match t.get? first with
    | some (.table inner) => at? inner next below
    | _ => none

variable {t new old : SettingTable} {name first : String} {value : Setting} {below : List String}

theorem at?_nil_table (first : String) (below : List String) : at? [] first below = none := by
  cases below <;> rfl

/-- The table that a name stands for, the empty one if it stands for none. -/
def child (t : SettingTable) (name : String) : SettingTable :=
  match t.get? name with
  | some (.table inner) => inner
  | _ => []

theorem at?_cons (t : SettingTable) (first next : String) (below : List String) :
    t.at? first (next :: below) = (t.child first).at? next below := by
  rw [at?, child]
  split
  · rfl
  · exact (at?_nil_table next below).symm

theorem child_of_get? {inner : SettingTable} (h : t.get? first = some (.table inner)) :
    t.child first = inner := by
  rw [child, h]

theorem at?_congr (h : t.get? first = old.get? first) (below : List String) :
    t.at? first below = old.at? first below := by
  cases below with
  | nil => exact h
  | cons next below => rw [at?_cons, at?_cons, child, child, h]

theorem adds_put (t : SettingTable) (name : String) (value : Setting) :
    Adds name t.names (put name value t).names := by
  induction t with
  | nil => exact .inr ⟨List.not_mem_nil, rfl⟩
  | cons entry t ih =>
      obtain ⟨other, old⟩ := entry
      rw [put]
      split
      · rename_i heq
        exact .inl (congrArg (· :: names t) heq.symm)
      · rename_i hne
        exact ih.cons hne

theorem get?_eq_none_of_not_mem (h : name ∉ t.names) : t.get? name = none :=
  List.lookup_eq_none_iff.mpr fun entry hentry => by
    have hne : name ≠ entry.1 := fun heq => h (heq ▸ List.mem_map_of_mem hentry)
    simpa using hne

/-! ## One table over another -/

theorem get?_over (h : new.names.Nodup) (old : SettingTable) (name : String) :
    (SettingTable.over new old).get? name =
      match new.get? name with
      | some value => some (value.over (old.get? name))
      | none => old.get? name := by
  induction new generalizing old with
  | nil => rfl
  | cons entry new ih =>
      obtain ⟨first, value⟩ := entry
      obtain ⟨hfirst, hnew⟩ := List.nodup_cons.mp h
      rw [SettingTable.over, ih hnew]
      by_cases hname : first = name
      · subst hname
        have hself : get? ((first, value) :: new) first = some value := List.lookup_cons_self
        rw [get?_eq_none_of_not_mem hfirst, get?_put_self, hself]
      · rw [get?_put_of_ne hname]
        have hother : get? ((first, value) :: new) name = get? new name := by
          rw [get?, List.lookup_cons, beq_eq_false_iff_ne.mpr (Ne.symm hname)]
          rfl
        rw [hother]

/-- Nothing but tables, with no name twice, on the way along a path. -/
def Clear (t : SettingTable) (first : String) : (below : List String) → Prop
  | [] => t.names.Nodup
  | next :: below =>
    t.names.Nodup ∧
      ∀ value, t.get? first = some value → ∃ inner, value = .table inner ∧ Clear inner next below

theorem Clear.nodup (h : t.Clear first below) : t.names.Nodup := by
  cases below with
  | nil => exact h
  | cons next below => exact h.1

theorem clear_nil (first : String) (below : List String) : Clear [] first below := by
  cases below with
  | nil => exact List.nodup_nil
  | cons next below => exact ⟨List.nodup_nil, fun value hvalue => by cases hvalue⟩

theorem Clear.child {next : String} (h : t.Clear first (next :: below)) :
    (t.child first).Clear next below := by
  cases hvalue : t.get? first with
  | none =>
      rw [SettingTable.child, hvalue]
      exact clear_nil next below
  | some value =>
      obtain ⟨inner, rfl, hinner⟩ := h.2 value hvalue
      rwa [child_of_get? hvalue]

/-- A table over a value is a table.  It is laid over that one if it is a table too, and
stands alone otherwise. -/
theorem over_table_cases (inner : SettingTable) (t : SettingTable) (name : String) :
    Setting.over (.table inner) (t.get? name) = .table (SettingTable.over inner (t.child name)) ∨
      t.child name = [] ∧ Setting.over (.table inner) (t.get? name) = .table inner := by
  rw [child]
  cases t.get? name with
  | none => exact .inr ⟨rfl, rfl⟩
  | some lower =>
      cases lower with
      | table old => exact .inl rfl
      | _ => exact .inr ⟨rfl, rfl⟩

/-- What a path gives once one table is laid over another. -/
theorem at?_over (h : new.Clear first below) (old : SettingTable) :
    (SettingTable.over new old).at? first below =
      match new.at? first below with
      | some value => some (value.over (old.at? first below))
      | none => old.at? first below := by
  induction below generalizing first new old with
  | nil => exact get?_over h old first
  | cons next below ih =>
      have hroot := get?_over h.nodup old first
      cases hnew : new.get? first with
      | none =>
          have hchild : new.child first = [] := by rw [child, hnew]
          rw [hnew] at hroot
          rw [at?_cons new, hchild, at?_nil_table]
          exact at?_congr hroot (next :: below)
      | some value =>
          obtain ⟨inner, rfl, hinner⟩ := h.2 value hnew
          rw [hnew] at hroot
          rw [at?_cons, at?_cons new, at?_cons old, child_of_get? hnew]
          rcases over_table_cases inner old first with hover | ⟨hchild, hover⟩
          · rw [child_of_get? (hroot.trans (congrArg some hover))]
            exact ih hinner (old.child first)
          · rw [child_of_get? (hroot.trans (congrArg some hover)), hchild, at?_nil_table]
            cases SettingTable.at? inner next below with
            | none => rfl
            | some value => exact congrArg some (Setting.over_none value).symm

/-- A table over nothing gives the same values. -/
theorem at?_over_nil (h : t.names.Nodup) (first : String) (below : List String) :
    (SettingTable.over t []).at? first below = t.at? first below := by
  refine at?_congr ?_ below
  rw [get?_over h]
  cases t.get? first with
  | none => rfl
  | some value => exact congrArg some (Setting.over_none value)

end SettingTable

/-! ## One value over a table -/

/-- Neither path leads on from the other. -/
def Apart (path path' : List String) : Prop := ¬path <+: path' ∧ ¬path' <+: path

theorem Apart.of_cons {name : String} {path path' : List String}
    (h : Apart (name :: path) (name :: path')) : Apart path path' :=
  ⟨fun hp => h.1 (List.cons_prefix_cons.mpr ⟨rfl, hp⟩),
    fun hp => h.2 (List.cons_prefix_cons.mpr ⟨rfl, hp⟩)⟩

section Nest

open SettingTable

variable {first first' : String} {below below' : List String} {value : Setting}

theorem nest_over_nil (first : String) (below : List String) (value : Setting) :
    (Setting.nest first below value).over [] = Setting.nest first below value := by
  cases below with
  | nil => exact congrArg (fun v => [(first, v)]) (Setting.over_none value)
  | cons next below => rfl

theorem adds_nest_over (layer : SettingTable) :
    Adds first layer.names ((Setting.nest first below value).over layer).names := by
  cases below <;> exact adds_put layer first _

theorem get?_nest_over_of_ne (hne : first ≠ first') (layer : SettingTable) :
    ((Setting.nest first below value).over layer).get? first' = layer.get? first' := by
  cases below <;> exact get?_put_of_ne hne layer _

/-- On a longer path there is a table, with the value laid over what it held. -/
theorem get?_nest_over_self (next : String) (layer : SettingTable) :
    ((Setting.nest first (next :: below) value).over layer).get? first =
      some (.table ((Setting.nest next below value).over (layer.child first))) := by
  have hput : ((Setting.nest first (next :: below) value).over layer).get? first =
      some (Setting.over (.table (Setting.nest next below value)) (layer.get? first)) :=
    get?_put_self layer first _
  rw [hput]
  rcases over_table_cases (Setting.nest next below value) layer first with hover | ⟨hchild, hover⟩
  · rw [hover]
  · rw [hover, hchild, nest_over_nil]

/-- A value at the end of a path leaves what paths apart from that one give. -/
theorem at?_nest_over_of_apart (h : Apart (first :: below) (first' :: below'))
    (layer : SettingTable) :
    ((Setting.nest first below value).over layer).at? first' below' =
      layer.at? first' below' := by
  induction below generalizing first first' below' layer with
  | nil =>
      have hfirst : first ≠ first' := fun heq => h.1 (by simp [heq])
      exact at?_congr (get?_nest_over_of_ne hfirst layer) below'
  | cons next below ih =>
      by_cases hfirst : first = first'
      · subst hfirst
        cases below' with
        | nil => exact absurd (by simp) h.2
        | cons next' below' =>
            rw [at?_cons, at?_cons layer, child_of_get? (get?_nest_over_self next layer)]
            exact ih h.of_cons (layer.child first)
      · exact at?_congr (get?_nest_over_of_ne hfirst layer) below'

/-- At its own path it is found, laid over what was there. -/
theorem at?_nest_over_self (layer : SettingTable) :
    ((Setting.nest first below value).over layer).at? first below =
      some (value.over (layer.at? first below)) := by
  induction below generalizing first layer with
  | nil => exact get?_put_self layer first _
  | cons next below ih =>
      rw [at?_cons, at?_cons layer, child_of_get? (get?_nest_over_self next layer)]
      exact ih (layer.child first)

/-- A path stays clear under one more value, unless the path goes on below that value. -/
theorem SettingTable.Clear.nest_over {layer : SettingTable} (hclear : layer.Clear first' below')
    (h : first :: below <+: first' :: below' → first :: below = first' :: below') :
    ((Setting.nest first below value).over layer).Clear first' below' := by
  induction below' generalizing first first' below layer with
  | nil => exact (adds_nest_over layer).nodup hclear
  | cons next' below' ih =>
      refine ⟨(adds_nest_over layer).nodup hclear.1, fun value' hvalue' => ?_⟩
      by_cases hfirst : first = first'
      · subst hfirst
        cases below with
        | nil => exact absurd (h (by simp)) (by simp)
        | cons next below =>
            rw [get?_nest_over_self] at hvalue'
            refine ⟨_, (Option.some.inj hvalue').symm, ih hclear.child fun hp => ?_⟩
            exact (List.cons.inj (h (List.cons_prefix_cons.mpr ⟨rfl, hp⟩))).2
      · rw [get?_nest_over_of_ne hfirst] at hvalue'
        exact hclear.2 value' hvalue'

end Nest

end TtpConformance
