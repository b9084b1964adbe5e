/-!
# Setting values

A source of settings, a file or the environment, gives a tree: tables of named values down to
numbers and texts. Sources are laid over one another key by key: where both have a table, the
tables are merged, and everywhere else the later value stands alone.

## Main definitions

* `Setting` — the values a source can give.
* `Setting.same` — a test for equality, which makes the trees of two sources comparable.
* `Setting.over`, `SettingTable.over` — a later value or table laid over an earlier one.
* `SettingTable.get?`, `SettingTable.put` — entries by name.
* `Setting.nest` — a value at the end of a path of tables.
-/

namespace TtpConformance

/-- A value that a source of settings gives. -/
inductive Setting where
  | flag (b : Bool)
  | whole (n : Int)
  /-- A number with a fraction or an exponent. No setting takes one, so its value is not kept. -/
  | fractional
  | text (s : String)
  | list (items : List Setting)
  | table (entries : List (String × Setting))

/-- Named values; `SettingTable.put` keeps the names apart. -/
abbrev SettingTable := List (String × Setting)

namespace SettingTable

/-- The value of a name. -/
def get? (t : SettingTable) (name : String) : Option Setting :=
  t.lookup name

/-- The table with the value of a name set. -/
def put (name : String) (value : Setting) : SettingTable → SettingTable
  | [] => [(name, value)]
  | (other, old) :: t =>
    if other = name then (name, value) :: t else (other, old) :: put name value t

end SettingTable

mutual

/-- Whether two values are the same. -/
def Setting.same : Setting → Setting → Bool
  | .flag a, .flag b => a == b
  | .whole a, .whole b => a == b
  | .fractional, .fractional => true
  | .text a, .text b => a == b
  | .list as, .list bs => Setting.sameItems as bs
  | .table as, .table bs => SettingTable.same as bs
  | _, _ => false

/-- Whether two lists have the same values. -/
def Setting.sameItems : List Setting → List Setting → Bool
  | [], [] => true
  | a :: as, b :: bs => Setting.same a b && Setting.sameItems as bs
  | _, _ => false

/-- Whether two tables have the same entries in the same order. -/
def SettingTable.same : SettingTable → SettingTable → Bool
  | [], [] => true
  | (name, a) :: as, (name', b) :: bs =>
    name == name' && Setting.same a b && SettingTable.same as bs
  | _, _ => false

end

mutual

theorem Setting.same_iff : ∀ a b : Setting, a.same b = true ↔ a = b
  | .flag _, b => by cases b <;> simp [Setting.same]
  | .whole _, b => by cases b <;> simp [Setting.same]
  | .fractional, b => by cases b <;> simp [Setting.same]
  | .text _, b => by cases b <;> simp [Setting.same]
  | .list as, b => by cases b <;> simp [Setting.same, Setting.sameItems_iff as]
  | .table as, b => by cases b <;> simp [Setting.same, SettingTable.same_iff as]

theorem Setting.sameItems_iff : ∀ as bs : List Setting, Setting.sameItems as bs = true ↔ as = bs
  | [], bs => by cases bs <;> simp [Setting.sameItems]
  | a :: as, bs => by
    cases bs <;> simp [Setting.sameItems, Setting.same_iff a, Setting.sameItems_iff as]

theorem SettingTable.same_iff : ∀ as bs : SettingTable, as.same bs = true ↔ as = bs
  | [], bs => by cases bs <;> simp [SettingTable.same]
  | (name, a) :: as, bs => by
    cases bs <;>
      simp [SettingTable.same, Setting.same_iff a, SettingTable.same_iff as, Prod.ext_iff]

end

instance : DecidableEq Setting := fun a b => decidable_of_iff _ (Setting.same_iff a b)

mutual

/-- A value laid over an earlier one of the same name. Only two tables merge. -/
def Setting.over : Setting → Option Setting → Setting
  | .table new, some (.table old) => .table (SettingTable.over new old)
  | new, _ => new

/-- A table laid over an earlier one, entry by entry. -/
def SettingTable.over : SettingTable → SettingTable → SettingTable
  | [], old => old
  | (name, value) :: new, old =>
    let merged := Setting.over value (SettingTable.get? old name)
    SettingTable.over new (SettingTable.put name merged old)

end

/-- The table that holds one value at the end of a path, whose first name is given apart. -/
def Setting.nest (name : String) : (below : List String) → Setting → SettingTable
  | [], value => [(name, value)]
  | next :: below, value => [(name, .table (Setting.nest next below value))]

namespace SettingTable

@[simp] theorem get?_nil (name : String) : get? [] name = none := rfl

@[simp] theorem get?_put_self (t : SettingTable) (name : String) (value : Setting) :
    (put name value t).get? name = some value := by
  induction t with
  | nil => simp [put, get?]
  | cons e t ih =>
    obtain ⟨other, old⟩ := e
    by_cases h : other = name
    · simp [put, get?, h]
    · simpa [put, get?, h, List.lookup_cons, beq_eq_false_iff_ne.2 (Ne.symm h)] using ih

theorem get?_put_of_ne {name other : String} (h : name ≠ other) (t : SettingTable)
    (value : Setting) : (put name value t).get? other = t.get? other := by
  induction t with
  | nil => simp [put, get?, List.lookup_cons, beq_eq_false_iff_ne.2 (Ne.symm h)]
  | cons e t ih =>
    obtain ⟨key, old⟩ := e
    by_cases hk : key = name
    · subst hk
      simp [put, get?, List.lookup_cons, beq_eq_false_iff_ne.2 (Ne.symm h)]
    · by_cases ho : other = key
      · subst ho
        simp [put, get?, hk]
      · simpa [put, get?, hk, List.lookup_cons, beq_eq_false_iff_ne.2 ho] using ih

end SettingTable

end TtpConformance
