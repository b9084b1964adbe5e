/-!
# Words of a command line

The first step of reading a shell command line: quotes and backslashes are resolved, and the text
falls into words and operators. Between apostrophes every character stands for itself, between
double quotes all but `$` and some that a backslash makes plain. A word keeps which of its parts
were quoted, because the values of parameters are cut at white space only outside of quotes.

## Main definitions

* `Piece`, `Word` — words with parameters that are not replaced yet.
* `Token` — words and operators.
* `tokens` — the tokens of a command line.
-/

namespace TtpConformance.Shell

/-- A part of a word: a character, or a parameter that stands for its value. -/
inductive Piece where
  | char (c : Char) (quoted : Bool)
  | parameter (name : String) (quoted : Bool)
  deriving DecidableEq, Repr

/-- A word. -/
structure Word where
  pieces : List Piece := []
  /-- Whether there were quotes. With them even an empty word is one. -/
  hasQuotes : Bool := false
  deriving DecidableEq, Repr

/-- The text of a word without parameters. -/
def Word.plainText? (w : Word) : Option String :=
  (w.pieces.mapM fun
    | Piece.char c _ => some c
    | Piece.parameter .. => none).map String.ofList

/-- The word with a character. -/
def Word.push (c : Char) (quoted : Bool) (word? : Option Word) : Option Word :=
  let w := word?.getD {}
  some { w with pieces := w.pieces ++ [.char c quoted] }

/-- The word with a parameter. -/
def Word.pushParameter (name : String) (quoted : Bool) (word? : Option Word) : Option Word :=
  let w := word?.getD {}
  some { w with pieces := w.pieces ++ [.parameter name quoted] }

/-- The word once quotes were opened. -/
def Word.openQuotes (word? : Option Word) : Option Word :=
  some { word?.getD {} with hasQuotes := true }

/-- The ways to redirect a stream. -/
inductive Redirection where
  /-- To a file, from its start. -/
  | write
  /-- To the end of a file. -/
  | append
  /-- From a file. -/
  | read
  /-- To where another stream goes. -/
  | copy
  deriving DecidableEq, Repr

/-- The operators between words. -/
inductive Operator where
  | newline
  | semicolon
  | background
  | ifOk
  | ifFailed
  | pipe
  | openParenthesis
  | closeParenthesis
  | redirect (descriptor : Nat) (redirection : Redirection)
  deriving DecidableEq, Repr

/-- A word or an operator. -/
inductive Token where
  | word (w : Word)
  | operator (o : Operator)
  deriving DecidableEq, Repr

/-- Why a command line cannot be read. -/
inductive SyntaxError where
  | unterminatedQuotes
  | unexpected (token : Token)
  | unexpectedEnd
  deriving DecidableEq, Repr

/-- An operator at the start of a text, and the text behind it. -/
def readOperator? : List Char → Option (Operator × List Char)
  | '\n' :: cs => some (.newline, cs)
  | ';' :: cs => some (.semicolon, cs)
  | '&' :: '&' :: cs => some (.ifOk, cs)
  | '&' :: cs => some (.background, cs)
  | '|' :: '|' :: cs => some (.ifFailed, cs)
  | '|' :: cs => some (.pipe, cs)
  | '(' :: cs => some (.openParenthesis, cs)
  | ')' :: cs => some (.closeParenthesis, cs)
  | '>' :: '>' :: cs => some (.redirect 1 .append, cs)
  | '>' :: '&' :: cs => some (.redirect 1 .copy, cs)
  | '>' :: '|' :: cs => some (.redirect 1 .write, cs)
  | '>' :: cs => some (.redirect 1 .write, cs)
  | '<' :: '&' :: cs => some (.redirect 0 .copy, cs)
  | '<' :: cs => some (.redirect 0 .read, cs)
  | _ => none

theorem length_lt_of_readOperator? {cs rest : List Char} {o : Operator}
    (h : readOperator? cs = some (o, rest)) : rest.length < cs.length := by
  unfold readOperator? at h
  split at h <;> cases h <;> simp only [List.length_cons] <;> omega

/-- The characters of parameter names. -/
def isNameChar (c : Char) : Bool := c.isAlphanum || c == '_'

/-- A parameter behind its dollar sign, and the text behind it. -/
def readParameter? : List Char → Option (String × List Char)
  | [] => none
  | c :: cs =>
    if c.isAlpha || c == '_' then
      some (.ofList (c :: cs.takeWhile isNameChar), cs.dropWhile isNameChar)
    else if c.isDigit || c == '$' || c == '?' || c == '#' || c == '!' then some (.singleton c, cs)
    else none

theorem length_lt_of_readParameter? {cs rest : List Char} {name : String}
    (h : readParameter? cs = some (name, rest)) : rest.length < cs.length := by
  unfold readParameter? at h
  split at h
  · cases h
  · next c cs =>
    have := (List.dropWhile_suffix isNameChar (l := cs)).length_le
    split at h
    · cases h
      simp only [List.length_cons]
      omega
    · split at h <;> cases h
      simp

/-- Whether a backslash between double quotes makes the character plain. -/
def isEscapable (c : Char) : Bool := c == '$' || c == '\x60' || c == '\"' || c == '\\'

/-- The text behind a comment, which ends in front of the line end. -/
def skipComment (cs : List Char) : List Char := cs.dropWhile (· != '\n')

theorem length_skipComment_le (cs : List Char) : (skipComment cs).length ≤ cs.length :=
  (List.dropWhile_suffix _).length_le

/-- Between which quotes a character stands. -/
inductive Quotes where
  | none
  | single
  | double

/-- The number of a stream, if the word before a redirection is one. -/
def descriptor? : Option Word → Option Nat
  | some ⟨[.char c false], false⟩ => if c.isDigit then some (c.toNat - '0'.toNat) else none
  | _ => none

/-- An operator behind a word. A digit right before a redirection is the stream that it is about,
and no word. -/
def endWord (word? : Option Word) (o : Operator) (rest : List Token) : List Token :=
  match o, descriptor? word? with
  | .redirect _ redirection, some n => .operator (.redirect n redirection) :: rest
  | o, _ =>
    match word? with
    | some w => .word w :: .operator o :: rest
    | none => .operator o :: rest

/-- The tokens of a text behind the beginning of a word. -/
def tokensFrom (quotes : Quotes) (word? : Option Word) (cs : List Char) :
    Except SyntaxError (List Token) :=
  match quotes, cs with
  | .none, [] => .ok (word?.toList.map .word)
  | _, [] => .error .unterminatedQuotes
  | .single, '\'' :: cs => tokensFrom .none word? cs
  | .single, c :: cs => tokensFrom .single (Word.push c true word?) cs
  | .double, '\"' :: cs => tokensFrom .none word? cs
  | .double, '\\' :: '\n' :: cs => tokensFrom .double word? cs
  | .double, '\\' :: c :: cs =>
    if isEscapable c then tokensFrom .double (Word.push c true word?) cs
    else tokensFrom .double (Word.push c true (Word.push '\\' true word?)) cs
  | .none, '\\' :: '\n' :: cs => tokensFrom .none word? cs
  | .none, '\\' :: c :: cs => tokensFrom .none (Word.push c true word?) cs
  | .none, '\'' :: cs => tokensFrom .single (Word.openQuotes word?) cs
  | .none, '\"' :: cs => tokensFrom .double (Word.openQuotes word?) cs
  | quotes, c :: cs =>
    let quoted := match quotes with
      | .none => false
      | _ => true
    match h : if c = '$' then readParameter? cs else none with
    | some (name, rest) =>
      have : rest.length < cs.length := by
        split at h
        · exact length_lt_of_readParameter? h
        · cases h
      tokensFrom quotes (Word.pushParameter name quoted word?) rest
    | none =>
      if quoted then tokensFrom quotes (Word.push c true word?) cs
      else
        match h : readOperator? (c :: cs) with
        | some (o, rest) =>
          have := length_lt_of_readOperator? h
          (tokensFrom .none none rest).map (endWord word? o)
        | none =>
          if c = ' ' ∨ c = '\t' then (tokensFrom .none none cs).map (word?.toList.map .word ++ ·)
          else if c = '#' ∧ word?.isNone then
            have := length_skipComment_le cs
            tokensFrom .none none (skipComment cs)
          else tokensFrom .none (Word.push c false word?) cs
termination_by cs.length
decreasing_by
  all_goals simp only [List.length_cons] at *
  all_goals omega

/-- The tokens of a command line. -/
def tokens (script : String) : Except SyntaxError (List Token) :=
  tokensFrom .none none script.toList

end TtpConformance.Shell
