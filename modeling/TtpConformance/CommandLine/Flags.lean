import TtpConformance.Text.Numeral

/-!
# Flags

The rules by which the arguments of a command are read. A flag has a long name behind two dashes
and may have a letter behind one. It is a switch, is counted, or takes a value: behind an equals
sign, right behind its letter, or as the next argument. Letters of switches can stand together.

A value that is its own argument is taken up only when the next flag is read or the arguments end.
So of two faults the later one is reported if it is found before that.

## Main definitions

* `UsageError` — why arguments are refused, or what they ask for instead.
* `Flag` — a flag with its effect on what the arguments say.
* `Scan` — how far the arguments are read.
* `Scan.arguments` — reads them all, or up to the name of a command.
-/

namespace TtpConformance.CommandLine

/-- Why arguments are refused, or what they ask for instead of a command. -/
inductive UsageError where
  /-- There is no such flag, or an argument that belongs to none. -/
  | unknownArgument
  /-- There is no such command. -/
  | unknownCommand
  /-- A flag has no value. -/
  | missingValue
  /-- A value cannot be read. -/
  | badValue
  /-- A switch has a value. -/
  | unexpectedValue
  /-- A flag is there twice that may be there once. -/
  | repeated
  /-- There are flags but no command. -/
  | missingCommand
  /-- There are no arguments. -/
  | nothingGiven
  /-- The arguments ask for help. -/
  | helpWanted
  /-- The arguments ask for the version. -/
  | versionWanted
  deriving DecidableEq, Repr

/-- What a flag does to what the arguments say so far. -/
inductive Action (α : Type) where
  | help
  | version
  | switch (set : α → α)
  | count (add : α → α)
  /-- The flag takes a value, which may be its own argument with a minus sign if it is a number. -/
  | value (allowsNegative : Bool) (read : String → Except UsageError (α → α))

/-- A flag. -/
structure Flag (α : Type) where
  name : String
  letter : Option Char := none
  action : Action α

/-- Whether a flag takes a value. -/
def Flag.takesValue {α : Type} (f : Flag α) : Bool :=
  match f.action with
  | .value .. => true
  | _ => false

/-- Whether the next argument may be a negative number that is the flag's value. -/
def Flag.allowsNegative {α : Type} (f : Flag α) : Bool :=
  match f.action with
  | .value allows _ => allows
  | _ => false

/-- How far the arguments are read. -/
structure Scan (α : Type) where
  /-- What the arguments say so far. -/
  result : α
  /-- The names of the flags that may be there once and were. -/
  given : List String := []
  /-- A flag whose value is not taken up yet, and the value if it was there. -/
  pending : Option (Flag α × Option String) := none

namespace Scan

variable {α : Type}

/-- Notes that a flag is there, which is an error the second time. -/
def once (st : Scan α) (f : Flag α) : Except UsageError (Scan α) :=
  if st.given.contains f.name then .error .repeated
  else .ok { st with given := f.name :: st.given }

/-- Takes up the value of a flag. -/
def takeUp (st : Scan α) (f : Flag α) (text : String) : Except UsageError (Scan α) :=
  match f.action with
  | .value _ read => do
    let st ← st.once f
    let set ← read text
    return { st with result := set st.result }
  | _ => .error .unexpectedValue

/-- Takes up the value that is pending, which has to be there. -/
def settle (st : Scan α) : Except UsageError (Scan α) :=
  match st.pending with
  | none => .ok st
  | some (_, none) => .error .missingValue
  | some (f, some text) => { st with pending := none }.takeUp f text

/-- A flag without a value. One that takes a value waits for it. -/
def plain (st : Scan α) (f : Flag α) : Except UsageError (Scan α) := do
  let st ← st.settle
  match f.action with
  | .help => .error .helpWanted
  | .version => .error .versionWanted
  | .switch set =>
    let st ← st.once f
    return { st with result := set st.result }
  | .count add => return { st with result := add st.result }
  | .value .. => return { st with pending := some (f, none) }

/-- A flag with its value right behind it. -/
def attached (st : Scan α) (f : Flag α) (text : String) : Except UsageError (Scan α) := do
  let st ← st.settle
  st.takeUp f text

variable (flags : List (Flag α))

/-- A long name, with a value behind an equals sign or without. -/
def long (st : Scan α) (name : String) (text? : Option String) : Except UsageError (Scan α) :=
  match flags.find? (·.name == name) with
  | none => .error .unknownArgument
  | some f =>
    match text? with
    | none => st.plain f
    | some text => if f.takesValue then st.attached f text else .error .unexpectedValue

/-- Letters behind one dash. Behind that of a flag that takes a value stands the value. -/
def letters (st : Scan α) : List Char → Except UsageError (Scan α)
  | [] => .ok st
  | c :: cs =>
    match flags.find? (·.letter == some c) with
    | none => .error .unknownArgument
    | some f =>
      if f.takesValue then
        match cs with
        | [] => st.plain f
        | '=' :: text => st.attached f (.ofList text)
        | text => st.attached f (.ofList text)
      else (st.plain f).bind fun st => letters st cs

/-- Whether the next argument is the value of the last flag. -/
def isWaiting (st : Scan α) : Bool :=
  match st.pending with
  | some (_, none) => true
  | _ => false

/-- Whether the next argument can be a negative number. -/
def awaitsNegative (st : Scan α) : Bool :=
  match st.pending with
  | some (f, none) => f.allowsNegative
  | _ => false

/-- Keeps an argument as the value that is waited for. -/
def supply (st : Scan α) (text : String) : Scan α :=
  { st with pending := st.pending.map fun (f, _) => (f, some text) }

end Scan

/-- Whether a text behind a minus sign makes a negative number: digits, not in front of them a
point, and not in front or at the end an exponent's `e`. -/
def isNumeral : (isFirst hasPoint hasExponent : Bool) → List Char → Bool
  | _, _, _, [] => true
  | isFirst, hasPoint, hasExponent, c :: cs =>
    if Text.isDigit c then isNumeral false hasPoint hasExponent cs
    else if isFirst || hasExponent then false
    else if c = '.' then !hasPoint && isNumeral false true false cs
    else c == 'e' && !cs.isEmpty && isNumeral false hasPoint true cs

/-- What an argument looks like. -/
inductive Shape where
  /-- Two dashes: no flags from here on. -/
  | stop
  | long (name : String) (text? : Option String)
  | letters (cs : List Char)
  | word
  deriving DecidableEq, Repr

/-- The shape of an argument. A dash alone is a word. -/
def Shape.of (argument : String) : Shape :=
  match argument.toList with
  | ['-', '-'] => .stop
  | '-' :: '-' :: cs =>
    let name := cs.takeWhile (· != '=')
    .long (.ofList name) ((cs.drop name.length).tail?.map String.ofList)
  | '-' :: c :: cs => .letters (c :: cs)
  | _ => .word

/-- The error for an argument that belongs to no flag: there is no such command, if commands are
expected here at all. Where no flags are read any more, commands are not either. -/
def strayError (commands : List String) (stopped : Bool) (argument : String) : UsageError :=
  if commands.isEmpty || (stopped && commands.contains argument) then .unknownArgument
  else .unknownCommand

/-- Reads arguments up to their end or to the name of a command, which is given with the arguments
behind it. -/
def Scan.arguments {α : Type} (flags : List (Flag α)) (commands : List String) :
    (stopped : Bool) → Scan α → List String →
      Except UsageError (Scan α × Option (String × List String))
  | _, st, [] => .ok (st, none)
  | stopped, st, argument :: rest =>
    if stopped then .error (strayError commands true argument)
    else if !st.isWaiting && commands.contains argument then .ok (st, some (argument, rest))
    else
      match Shape.of argument with
      | .stop => Scan.arguments flags commands true st rest
      | .long name text? => do
        let st ← st.long flags name text?
        Scan.arguments flags commands false st rest
      | .letters cs =>
        if st.awaitsNegative && isNumeral true false false cs then
          Scan.arguments flags commands false (st.supply argument) rest
        else do
          let st ← st.letters flags cs
          Scan.arguments flags commands false st rest
      | .word =>
        if st.isWaiting then Scan.arguments flags commands false (st.supply argument) rest
        else .error (strayError commands false argument)

/-- Reads all arguments of a command that has none below it. -/
def readAll {α : Type} (flags : List (Flag α)) (start : α) (arguments : List String) :
    Except UsageError (Scan α) := do
  let (st, _) ← Scan.arguments flags [] false { result := start } arguments
  st.settle

end TtpConformance.CommandLine
