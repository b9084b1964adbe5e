import TtpConformance.Double.Literal
import TtpConformance.Settings.Value
import TtpConformance.Text.Lines
import TtpConformance.Text.Quoted

/-!
# Settings in the environment

Variables whose names start with `TTP_HARNESS_` give settings. What follows in the name is a path,
in lower case and with two underscores between its parts; a name with an empty part gives nothing.

The text of a variable is a truth value, a number, a quoted text, a character between apostrophes,
a list in brackets or a table in braces. A text that is none of these from end to end stands for
itself.

## Main definitions

* `settingPath?` — the path that a variable's name gives.
* `readVariable` — the value of a variable's text.
* `variableLayer` — the settings of an environment.
-/

namespace TtpConformance.Settings

/-- What the names of all variables start with. -/
def variableStart : List Char := "ttp_harness_".toList

/-- Lower case, of ASCII letters only. -/
def lowerCase (cs : List Char) : List Char := cs.map Char.toLower

/-- Two underscores become a dot. -/
def dotted : List Char → List Char
  | '_' :: '_' :: cs => '.' :: dotted cs
  | c :: cs => c :: dotted cs
  | [] => []

/-- The path that a variable's name gives. -/
def settingPath? (name : String) : Option (String × List String) :=
  match Text.afterStart variableStart (lowerCase (Text.trim name.toList)) with
  | none => none
  | some rest =>
    let parts := Text.splitBy (· == '.') (Text.trim (dotted rest))
    if parts.any List.isEmpty then none
    else
      match parts.map String.ofList with
      | [] => none
      | first :: below => some (first, below)

/-- The white space around values. -/
def isVariableSpace (c : Char) : Bool :=
  c == ' ' || c == '\t' || c == '\n' || c == '\r' || c.toNat == 12

/-- The text behind the white space it starts with. -/
def skipVariableSpace (cs : List Char) : List Char := cs.dropWhile isVariableSpace

/-- The characters that end a value without quotes. -/
def isSeparator (c : Char) : Bool :=
  c == ',' || c == '\x7b' || c == '\x7d' || c == '[' || c == ']'

/-- The value of a text without quotes or brackets: a number if it writes one. -/
def bareValue (cs : List Char) : Setting :=
  if cs.contains '.' && (Double.read? cs).isSome then .fractional
  else
    match Text.readNat .decimal (UInt64.size - 1) cs with
    | .ok n => .whole n
    | .error _ =>
      match Text.readInt64 cs with
      | .ok n => .whole n
      | .error _ => .text (.ofList cs)

/-- The name of an entry in a table. -/
def readEntryName? : List Char → Option (String × List Char)
  | '\"' :: cs => (Text.readQuoted? cs).map fun (name, rest) => (.ofList name, rest)
  | cs =>
    let (name, rest) := cs.span fun c => c.isAlphanum || c == '_' || c == '-'
    if name.isEmpty then none else some (.ofList name, rest)

mutual

/-- A value with the white space around it, and the text behind. `fuel` bounds the number of
values. -/
def readVariableValue? : (fuel : Nat) → List Char → Option (Setting × List Char)
  | 0, _ => none
  | fuel + 1, cs =>
    let value? : Option (Setting × List Char) :=
      match skipVariableSpace cs with
      | 't' :: 'r' :: 'u' :: 'e' :: rest => some (.flag true, rest)
      | 'f' :: 'a' :: 'l' :: 's' :: 'e' :: rest => some (.flag false, rest)
      | '\x7b' :: rest => (readEntries? fuel [] rest).map fun (es, rest) => (.table es, rest)
      | '[' :: rest => (readElements? fuel rest).map fun (vs, rest) => (.list vs, rest)
      | '\"' :: rest =>
        (Text.readQuoted? rest).map fun (text, rest) => (.text (.ofList text), rest)
      | '\'' :: rest =>
        match rest with
        | c :: '\'' :: rest => some (.text (.singleton c), rest)
        | _ => none
      | rest =>
        let (bare, rest) := rest.span (!isSeparator ·)
        some (bareValue (Text.trim bare), rest)
    value?.map fun (value, rest) => (value, skipVariableSpace rest)

/-- The elements of a list up to its closing bracket. -/
def readElements? : (fuel : Nat) → List Char → Option (List Setting × List Char)
  | 0, _ => none
  | fuel + 1, cs =>
    match cs with
    | ']' :: rest => some ([], rest)
    | cs =>
      match readVariableValue? fuel cs with
      | some (value, ',' :: rest) =>
        (readElements? fuel rest).map fun (vs, rest) => (value :: vs, rest)
      | some (value, ']' :: rest) => some ([value], rest)
      | _ => none

/-- The entries of a table up to its closing brace, put into `table`. -/
def readEntries? : (fuel : Nat) → SettingTable → List Char → Option (SettingTable × List Char)
  | 0, _, _ => none
  | fuel + 1, table, cs =>
    match cs with
    | '\x7d' :: rest => some (table, rest)
    | cs =>
      match readEntryName? (skipVariableSpace cs) with
      | none => none
      | some (name, rest) =>
        match skipVariableSpace rest with
        | '=' :: rest =>
          match readVariableValue? fuel rest with
          | some (value, ',' :: rest) => readEntries? fuel (table.put name value) rest
          | some (value, '\x7d' :: rest) => some (table.put name value, rest)
          | _ => none
        | _ => none

end

/-- The value of a variable's text. -/
def readVariable (text : String) : Setting :=
  match readVariableValue? (2 * text.length + 1) text.toList with
  | some (value, []) => value
  | _ => .text text

/-- The settings of an environment, later variables laid over earlier ones. -/
def variableLayer (environment : List (String × String)) : SettingTable :=
  environment.foldl (fun layer (name, text) =>
    match settingPath? name with
    | none => layer
    | some (first, below) => (Setting.nest first below (readVariable text)).over layer) []

end TtpConformance.Settings
