import TtpConformance.Text.Quoted
import TtpConformance.Toml.Scalar
import TtpConformance.Toml.Tree

/-!
# TOML texts

A reader for TOML texts, the form of settings files. A text is a list of lines, each with a
header, with a key and its value, or with nothing; only arrays and texts between triple quotes go
over several lines. White space inside a line is spaces and tabs, and a comment starts with `#`.

Brackets nest less than eighty deep, and a dotted key has less than eighty parts.

## Main definitions

* `readKey?`, `readValue?` — keys and values at the start of a text.
* `Statement`, `readStatements?` — the lines of a text.
* `read?` — the table that a text writes.
-/

namespace TtpConformance.Toml

/-- White space inside a line. -/
def isGap (c : Char) : Bool := c == ' ' || c == '\t'

/-- The text behind the white space it starts with. -/
def skipGap (cs : List Char) : List Char := cs.dropWhile isGap

/-- The characters that may stand in a comment. -/
def isCommentChar (c : Char) : Bool := Text.isQuotable c

/-- The text behind the end of a line, before which there may be a comment. -/
def endLine? (cs : List Char) : Option (List Char) :=
  let cs := skipGap cs
  let cs := if cs.head? = some '#' then cs.dropWhile isCommentChar else cs
  match cs with
  | [] => some []
  | '\n' :: cs => some cs
  | '\r' :: '\n' :: cs => some cs
  | _ => none

/-- The text behind white space, line ends and comments. -/
def skipLines : (comment : Bool) → List Char → List Char
  | _, [] => []
  | _, '\n' :: cs => skipLines false cs
  | _, '\r' :: '\n' :: cs => skipLines false cs
  | true, c :: cs => if isCommentChar c then skipLines true cs else c :: cs
  | false, c :: cs =>
    if isGap c then skipLines false cs
    else if c = '#' then skipLines true cs
    else c :: cs

/-! ### Texts -/

/-- A literal text behind its opening apostrophe, in which no character means another. -/
def readLiteral? : List Char → Option (List Char × List Char)
  | [] => none
  | '\'' :: cs => some ([], cs)
  | c :: cs =>
    if Text.isQuotable c then (readLiteral? cs).map fun (text, rest) => (c :: text, rest) else none

/-- Behind three quotes that end a text: up to two further ones still belong to it. -/
def endTriple (quote : Char) : List Char → List Char × List Char
  | c :: d :: cs =>
    if c = quote then if d = quote then ([c, d], cs) else ([c], d :: cs) else ([], c :: d :: cs)
  | [c] => if c = quote then ([c], []) else ([], [c])
  | [] => ([], [])

/-- A literal text behind its three opening apostrophes. -/
def readLiteralLines? : List Char → Option (List Char × List Char)
  | [] => none
  | '\'' :: '\'' :: '\'' :: cs => some (endTriple '\'' cs)
  | '\r' :: '\n' :: cs => (readLiteralLines? cs).map fun (text, rest) => ('\n' :: text, rest)
  | c :: cs =>
    if c = '\n' ∨ Text.isQuotable c then
      (readLiteralLines? cs).map fun (text, rest) => (c :: text, rest)
    else none

/-- Whether a line ends here, apart from white space. -/
def atLineEnd (cs : List Char) : Bool :=
  match skipGap cs with
  | '\n' :: _ => true
  | '\r' :: '\n' :: _ => true
  | _ => false

/-- A text behind its three opening quotes. A backslash at the end of a line drops the white space
and the line ends that follow. -/
def readQuotedLines? (cs : List Char) : Option (List Char × List Char) :=
  match cs with
  | [] => none
  | '\"' :: '\"' :: '\"' :: cs => some (endTriple '\"' cs)
  | '\r' :: '\n' :: cs => (readQuotedLines? cs).map fun (text, rest) => ('\n' :: text, rest)
  | '\\' :: cs =>
    if atLineEnd cs then readFolded? cs
    else
      match h : Text.readEscape? cs with
      | none => none
      | some (c, rest) =>
        have := Text.length_lt_of_readEscape? h
        (readQuotedLines? rest).map fun (text, rest) => (c :: text, rest)
  | c :: cs =>
    if c = '\n' ∨ Text.isQuotable c then
      (readQuotedLines? cs).map fun (text, rest) => (c :: text, rest)
    else none
termination_by (cs.length, 1)
where
  /-- The same behind white space and line ends that do not count. -/
  readFolded? (cs : List Char) : Option (List Char × List Char) :=
    match cs with
    | ' ' :: cs => readFolded? cs
    | '\t' :: cs => readFolded? cs
    | '\n' :: cs => readFolded? cs
    | '\r' :: '\n' :: cs => readFolded? cs
    | cs => readQuotedLines? cs
  termination_by (cs.length, 2)

/-- A line end right behind the opening quotes of a text does not belong to it. -/
def dropFirstLineEnd : List Char → List Char
  | '\n' :: cs => cs
  | '\r' :: '\n' :: cs => cs
  | cs => cs

/-! ### Keys -/

/-- The characters of a key without quotes. -/
def isKeyChar (c : Char) : Bool := c.isAlphanum || c == '_' || c == '-'

/-- One part of a key. -/
def readName? (cs : List Char) : Option (String × List Char) :=
  match cs with
  | '\"' :: cs => (Text.readQuoted? cs).map fun (name, rest) => (.ofList name, rest)
  | '\'' :: cs => (readLiteral? cs).map fun (name, rest) => (.ofList name, rest)
  | cs =>
    let (name, rest) := cs.span isKeyChar
    if name.isEmpty then none else some (.ofList name, rest)

/-- The parts of a key: the first name and those below it. -/
abbrev Key := String × List String

/-- A key with dots between its parts, of which there are at most `room`, and white space around
them. -/
def readKey? : (room : Nat) → List Char → Option (Key × List Char)
  | 0, _ => none
  | room + 1, cs =>
    match readName? (skipGap cs) with
    | none => none
    | some (name, rest) =>
      match skipGap rest with
      | '.' :: rest =>
        (readKey? room rest).map fun ((next, below), rest) => ((name, next :: below), rest)
      | rest => some ((name, []), rest)

/-- The greatest number of brackets inside one another, and of parts of a key. -/
def maxDepth : Nat := 79

/-! ### Values -/

mutual

/-- A value and the text behind it, inside at most `room` further brackets. `fuel` bounds the
number of values. -/
def readValue? : (fuel room : Nat) → List Char → Option (Setting × List Char)
  | 0, _, _ => none
  | fuel + 1, room, cs =>
    match cs with
    | '\"' :: '\"' :: '\"' :: cs =>
      (readQuotedLines? (dropFirstLineEnd cs)).map fun (text, rest) => (.text (.ofList text), rest)
    | '\"' :: cs => (Text.readQuoted? cs).map fun (text, rest) => (.text (.ofList text), rest)
    | '\'' :: '\'' :: '\'' :: cs =>
      (readLiteralLines? (dropFirstLineEnd cs)).map fun (text, rest) => (.text (.ofList text), rest)
    | '\'' :: cs => (readLiteral? cs).map fun (text, rest) => (.text (.ofList text), rest)
    | '[' :: cs =>
      if room = 0 then none
      else (readItems? fuel (room - 1) (skipLines false cs)).map fun (vs, rest) => (.list vs, rest)
    | '\x7b' :: cs =>
      if room = 0 then none
      else
        match skipGap cs with
        | '\x7d' :: rest => some (.table [], rest)
        | rest =>
          (readPairs? fuel (room - 1) [] rest).map fun (table, rest) => (.table table.close, rest)
    | cs => readPlain? cs

/-- The items of an array up to its closing bracket. -/
def readItems? : (fuel room : Nat) → List Char → Option (List Setting × List Char)
  | 0, _, _ => none
  | fuel + 1, room, cs =>
    match cs with
    | ']' :: rest => some ([], rest)
    | cs =>
      match readValue? fuel room cs with
      | none => none
      | some (value, rest) =>
        match skipLines false rest with
        | ']' :: rest => some ([value], rest)
        | ',' :: rest =>
          (readItems? fuel room (skipLines false rest)).map fun (vs, rest) => (value :: vs, rest)
        | _ => none

/-- The pairs of an inline table that has some, up to its closing brace, put into `table`. -/
def readPairs? : (fuel room : Nat) → Branch → List Char → Option (Branch × List Char)
  | 0, _, _, _ => none
  | fuel + 1, room, table, cs =>
    match readKey? maxDepth cs with
    | some ((name, below), '=' :: rest) =>
      match readValue? fuel room (skipGap rest) with
      | none => none
      | some (value, rest) =>
        match table.assign? value name below with
        | none => none
        | some table =>
          match skipGap rest with
          | '\x7d' :: rest => some (table, rest)
          | ',' :: rest => readPairs? fuel room table rest
          | _ => none
    | _ => none

end

/-! ### Lines -/

/-- What a line says. -/
inductive Statement where
  /-- A value for a key of the table that is open. -/
  | pair (key : Key) (value : Setting)
  /-- The table of this key is open from here on. -/
  | openTable (key : Key)
  /-- A further table of the array of this key is open from here on. -/
  | openItem (key : Key)

/-- A statement at the start of a text, and the text behind it. -/
def readStatement? (fuel : Nat) (cs : List Char) : Option (Statement × List Char) :=
  match cs with
  | '[' :: '[' :: cs =>
    match readKey? maxDepth cs with
    | some (key, ']' :: ']' :: rest) => some (.openItem key, rest)
    | _ => none
  | '[' :: cs =>
    match readKey? maxDepth cs with
    | some (key, ']' :: rest) => some (.openTable key, rest)
    | _ => none
  | cs =>
    match readKey? maxDepth cs with
    | some (key, '=' :: rest) =>
      (readValue? fuel maxDepth (skipGap rest)).map fun (value, rest) => (.pair key value, rest)
    | _ => none

/-- The statements of a text of at most `fuel` lines and values. -/
def readStatements? : (fuel : Nat) → List Char → Option (List Statement)
  | 0, _ => none
  | _ + 1, [] => some []
  | fuel + 1, cs =>
    match endLine? cs with
    | some rest => readStatements? fuel rest
    | none =>
      match readStatement? fuel (skipGap cs) with
      | none => none
      | some (statement, rest) =>
        match endLine? rest with
        | none => none
        | some rest => (readStatements? fuel rest).map (statement :: ·)

/-! ### Documents -/

/-- A table as far as it is read, and the path of the header in force. -/
structure Draft where
  root : Branch := []
  path : List String := []

namespace Draft

/-- The path of the table that holds the one of a key, and the name under which it does. -/
def splitKey (key : Key) : List String × String :=
  match key.2.getLast? with
  | none => ([], key.1)
  | some last => (key.1 :: key.2.dropLast, last)

/-- What a statement adds. -/
def add? (draft : Draft) : Statement → Option Draft
  | .pair (name, below) value =>
    (draft.root.within? (Branch.assign? value name below) draft.path).map fun root =>
      { draft with root }
  | .openTable key =>
    let (parents, name) := splitKey key
    (draft.root.within? (Branch.openTable? name) parents).map fun root =>
      ⟨root, key.1 :: key.2⟩
  | .openItem key =>
    let (parents, name) := splitKey key
    (draft.root.within? (Branch.openItem? name) parents).map fun root =>
      ⟨root, key.1 :: key.2⟩

end Draft

/-- The table that a text writes. A byte order mark in front is skipped. -/
def read? (text : String) : Option SettingTable :=
  let cs :=
    match text.toList with
    | '\ufeff' :: cs => cs
    | cs => cs
  ((readStatements? (2 * cs.length + 2) cs).bind (·.foldlM Draft.add? {})).map (·.root.close)

end TtpConformance.Toml
