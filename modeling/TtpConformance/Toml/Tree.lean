import TtpConformance.Settings.Value

/-!
# Tables under construction

A TOML text fills a tree of tables statement by statement, and not every table may be added to
from everywhere. A table has one header at most. A table that was only named on the way to a
deeper header may still get its own; one that dotted keys made may not, and dotted keys add to no
table but such a one. A value that is written out, an inline table too, is closed.

## Main definitions

* `Node` — a table with its origin, an array of tables, or a closed value.
* `Branch.assign?` — a value put at a dotted key.
* `Branch.within?` — a change at the end of a path of headers.
* `Branch.openTable?`, `Branch.openItem?` — what the two kinds of header do.
* `Branch.close` — the finished table.
-/

namespace TtpConformance.Toml

/-- How a table came to be, which decides what may still add to it. -/
inductive Origin where
  /-- It has its own header. -/
  | header
  /-- A header of a table further down named it. -/
  | deeperHeader
  /-- A dotted key named it. -/
  | dottedKey
  deriving DecidableEq

/-- What a name stands for while the text is read. -/
inductive Node where
  /-- A value that was written out. -/
  | closed (value : Setting)
  | table (origin : Origin) (entries : List (String × Node))
  /-- An array of tables: the finished ones, and the one that is being filled. -/
  | tables (finished : List Setting) (entries : List (String × Node))

/-- The entries of a table under construction. -/
abbrev Branch := List (String × Node)

mutual

/-- The value of a node once the text is at its end. -/
def Node.close : Node → Setting
  | .closed value => value
  | .table _ entries => .table (Branch.close entries)
  | .tables finished entries => .list (finished ++ [.table (Branch.close entries)])

/-- The table of a branch once the text is at its end. -/
def Branch.close : Branch → SettingTable
  | [] => []
  | (name, node) :: entries => (name, node.close) :: Branch.close entries

end

namespace Branch

/-- Changes what a name stands for, or what it is to stand for if it is new. -/
def alter? (name : String) (change : Option Node → Option Node) : Branch → Option Branch
  | [] => (change none).map fun node => [(name, node)]
  | (other, node) :: entries =>
    if other = name then (change (some node)).map fun node => (other, node) :: entries
    else (alter? name change entries).map ((other, node) :: ·)

/--
Puts a value at a dotted key, given as its first name and the names below. The last name has to be
new, and the table that holds it has to be this one or one that dotted keys made. On the way there
a dotted key may pass through tables that headers of deeper tables made.
-/
def assign? (value : Setting) : (name : String) → (below : List String) → Branch → Option Branch
  | name, [], entries =>
    alter? name (fun
      | none => some (.closed value)
      | some _ => none) entries
  | name, next :: below, entries =>
    alter? name (fun
      | none => (assign? value next below []).map (.table .dottedKey)
      | some (.table .dottedKey inner) =>
        (assign? value next below inner).map (.table .dottedKey)
      | some (.table .deeperHeader inner) =>
        if below.isEmpty then none
        else (assign? value next below inner).map (.table .deeperHeader)
      | some (.tables finished inner) =>
        if below.isEmpty then none else (assign? value next below inner).map (.tables finished)
      | some _ => none) entries

/-- Changes the table at the end of a path. Tables that are missing on the way are made, and of an
array of tables the last one is meant. -/
def within? (change : Branch → Option Branch) : (path : List String) → Branch → Option Branch
  | [], entries => change entries
  | name :: path, entries =>
    alter? name (fun
      | none => (within? change path []).map (.table .deeperHeader)
      | some (.table origin inner) => (within? change path inner).map (.table origin)
      | some (.tables finished inner) => (within? change path inner).map (.tables finished)
      | some (.closed _) => none) entries

/-- Opens a table by its header. -/
def openTable? (name : String) : Branch → Option Branch :=
  alter? name fun
    | none => some (.table .header [])
    | some (.table .deeperHeader inner) => some (.table .header inner)
    | some _ => none

/-- Opens a further table of an array by its header. -/
def openItem? (name : String) : Branch → Option Branch :=
  alter? name fun
    | none => some (.tables [] [])
    | some (.tables finished inner) => some (.tables (finished ++ [.table (close inner)]) [])
    | some _ => none

end Branch

end TtpConformance.Toml
