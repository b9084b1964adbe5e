import TtpConformance.Shell.Token

/-!
# Command lines

The second step of reading a shell command line: its tokens form commands, pipelines of commands,
pipelines joined by `&&` and `||`, and lists of those. Commands can be grouped by parentheses, which
keep what the group does to the shell inside, and by braces.

## Main definitions

* `SimpleCommand`, `Tree` — command lines.
* `parse` — the command line that a text writes.
-/

namespace TtpConformance.Shell

/-- A redirected stream. -/
structure Redirect where
  descriptor : Nat
  redirection : Redirection
  target : Word
  deriving DecidableEq, Repr

/-- A command: its words, and what is redirected for it. -/
structure SimpleCommand where
  words : List Word := []
  redirects : List Redirect := []
  deriving DecidableEq, Repr

/-- A command line. -/
inductive Tree where
  | nothing
  | simple (command : SimpleCommand)
  /-- A group; one in parentheses is isolated. -/
  | group (isolated : Bool) (body : Tree) (redirects : List Redirect)
  | pipe (left right : Tree)
  /-- The right side runs if the left one worked, or if it failed. -/
  | chain (ifOk : Bool) (left right : Tree)
  /-- The other way round: what fails has worked. -/
  | invert (body : Tree)
  | sequence (first second : Tree)
  deriving Repr

/-- A command line that was read, and the tokens behind it. -/
abbrev ParsedTree := Except SyntaxError (Tree × List Token)

/-- The error at a token that cannot stand where it does. -/
def unexpected {α : Type} : List Token → Except SyntaxError α
  | [] => .error .unexpectedEnd
  | token :: _ => .error (.unexpected token)

/-- Redirections in a row. -/
def parseRedirects : List Token → Except SyntaxError (List Redirect × List Token)
  | .operator (.redirect descriptor redirection) :: .word target :: ts =>
    (parseRedirects ts).map fun (rs, rest) => (⟨descriptor, redirection, target⟩ :: rs, rest)
  | .operator (.redirect ..) :: ts => unexpected ts
  | ts => .ok ([], ts)

/-- Words and redirections in a row. -/
def parseSimple : List Token → Except SyntaxError (SimpleCommand × List Token)
  | .word w :: ts =>
    (parseSimple ts).map fun (c, rest) => ({ c with words := w :: c.words }, rest)
  | .operator (.redirect descriptor redirection) :: .word target :: ts =>
    (parseSimple ts).map fun (c, rest) =>
      ({ c with redirects := ⟨descriptor, redirection, target⟩ :: c.redirects }, rest)
  | .operator (.redirect ..) :: ts => unexpected ts
  | ts => .ok ({}, ts)

/-- The text of a word that is not quoted at all, as the words of the grammar are. -/
def bare? (w : Word) : Option String := if w.hasQuotes then none else w.plainText?

/-- The tokens behind line ends. -/
def skipNewlines (ts : List Token) : List Token :=
  ts.dropWhile (· == .operator .newline)

/-- Whether a list of commands ends here. -/
def endsList : List Token → Bool
  | [] => true
  | .operator .closeParenthesis :: _ => true
  | .word w :: _ => bare? w == some "\x7d"
  | _ => false

mutual

/-- A command. `fuel` bounds the number of tokens, here and below. -/
def parseCommand : (fuel : Nat) → List Token → ParsedTree
  | 0, ts => unexpected ts
  | fuel + 1, ts =>
    match ts with
    | .operator .openParenthesis :: ts => do
      let (body, ts) ← parseList fuel ts
      match ts with
      | .operator .closeParenthesis :: ts =>
        let (redirects, ts) ← parseRedirects ts
        return (.group true body redirects, ts)
      | ts => unexpected ts
    | .word w :: ts =>
      if bare? w = some "\x7b" then do
        let (body, rest) ← parseList fuel ts
        match rest with
        | .word w :: rest =>
          if bare? w = some "\x7d" then
            let (redirects, rest) ← parseRedirects rest
            return (.group false body redirects, rest)
          else unexpected (.word w :: rest)
        | rest => unexpected rest
      else if bare? w = some "\x7d" then unexpected (.word w :: ts)
      else (parseSimple (.word w :: ts)).map fun (c, rest) => (.simple c, rest)
    | .operator (.redirect d r) :: ts =>
      (parseSimple (.operator (.redirect d r) :: ts)).map fun (c, rest) => (.simple c, rest)
    | ts => unexpected ts

/-- Commands with `|` between them. -/
def parsePipes : (fuel : Nat) → List Token → ParsedTree
  | 0, ts => unexpected ts
  | fuel + 1, ts => do
    let (left, ts) ← parseCommand fuel ts
    match ts with
    | .operator .pipe :: ts =>
      let (right, ts) ← parsePipes fuel (skipNewlines ts)
      return (.pipe left right, ts)
    | ts => return (left, ts)

/-- A pipeline, which `!` inverts. -/
def parsePipeline : (fuel : Nat) → List Token → ParsedTree
  | 0, ts => unexpected ts
  | fuel + 1, ts =>
    match ts with
    | .word w :: ts =>
      if bare? w = some "!" then
        (parsePipes fuel ts).map fun (body, rest) => (.invert body, rest)
      else parsePipes fuel (.word w :: ts)
    | ts => parsePipes fuel ts

/-- Pipelines joined to those in front of them. -/
def parseChain : (fuel : Nat) → (left : Tree) → List Token → ParsedTree
  | 0, _, ts => unexpected ts
  | fuel + 1, left, ts =>
    match ts with
    | .operator .ifOk :: ts => do
      let (right, ts) ← parsePipeline fuel (skipNewlines ts)
      parseChain fuel (.chain true left right) ts
    | .operator .ifFailed :: ts => do
      let (right, ts) ← parsePipeline fuel (skipNewlines ts)
      parseChain fuel (.chain false left right) ts
    | ts => .ok (left, ts)

/-- A list of commands. -/
def parseList : (fuel : Nat) → List Token → ParsedTree
  | 0, ts => unexpected ts
  | fuel + 1, ts => do
    let ts := skipNewlines ts
    if endsList ts then return (.nothing, ts)
    else
      let (pipeline, ts) ← parsePipeline fuel ts
      let (first, ts) ← parseChain fuel pipeline ts
      match ts with
      | .operator .semicolon :: ts =>
        let (second, ts) ← parseList fuel ts
        return (.sequence first second, ts)
      | .operator .background :: ts =>
        let (second, ts) ← parseList fuel ts
        return (.sequence first second, ts)
      | .operator .newline :: ts =>
        let (second, ts) ← parseList fuel ts
        return (.sequence first second, ts)
      | ts => return (first, ts)

end

/-- The command line that a text writes. -/
def parse (script : String) : Except SyntaxError Tree := do
  let ts ← tokens script
  let (tree, rest) ← parseList (8 * ts.length + 8) ts
  if rest.isEmpty then return tree else unexpected rest

end TtpConformance.Shell
