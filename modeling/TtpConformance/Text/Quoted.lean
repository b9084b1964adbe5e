import TtpConformance.Text.Numeral

/-!
# Quoted texts

A text between double quotes on one line. A backslash starts an escape: a letter for a control
character, the quote or the backslash itself, or a code point of four or eight hexadecimal digits.
Control characters other than the tab do not stand for themselves.

## Main definitions

* `isQuotable` — the characters that may stand for themselves.
* `readEscape?` — what a backslash starts.
* `readQuoted?` — a text up to its closing quote.
-/

namespace TtpConformance.Text

/-- The characters that may stand for themselves between quotes: all but the control characters,
and of those the tab. -/
def isQuotable (c : Char) : Bool :=
  c == '\t' || (0x20 ≤ c.toNat && c.toNat ≠ 0x7F)

/-- The character that hexadecimal digits name, unless they name a surrogate or no code point. -/
def codePoint? (ds : List Char) : Option Char :=
  match readDigits .hex 0x10FFFF .tooLarge 0 ds with
  | .ok n => if n.isValidChar then some (Char.ofNat n) else none
  | .error _ => none

/-- The character of an escape behind its backslash, and the text behind that. -/
def readEscape? : List Char → Option (Char × List Char)
  | 'b' :: cs => some (Char.ofNat 8, cs)
  | 't' :: cs => some ('\t', cs)
  | 'n' :: cs => some ('\n', cs)
  | 'f' :: cs => some (Char.ofNat 12, cs)
  | 'r' :: cs => some ('\r', cs)
  | '\"' :: cs => some ('\"', cs)
  | '\\' :: cs => some ('\\', cs)
  | 'u' :: cs => if cs.length < 4 then none else (codePoint? (cs.take 4)).map (·, cs.drop 4)
  | 'U' :: cs => if cs.length < 8 then none else (codePoint? (cs.take 8)).map (·, cs.drop 8)
  | _ => none

/-- An escape is not empty. -/
theorem length_lt_of_readEscape? {cs rest : List Char} {c : Char}
    (h : readEscape? cs = some (c, rest)) : rest.length < cs.length := by
  unfold readEscape? at h
  split at h
  all_goals first | cases h | skip
  all_goals try simp only [List.length_cons]; omega
  all_goals
    split at h
    · cases h
    · simp only [Option.map_eq_some_iff, Prod.mk.injEq] at h
      obtain ⟨_, _, _, rfl⟩ := h
      simp only [List.length_drop, List.length_cons]
      omega

/-- A text behind its opening quote: its characters, and the text behind its closing quote. -/
def readQuoted? (cs : List Char) : Option (List Char × List Char) :=
  match cs with
  | [] => none
  | '\"' :: cs => some ([], cs)
  | '\\' :: cs =>
    match h : readEscape? cs with
    | none => none
    | some (c, rest) =>
      have := length_lt_of_readEscape? h
      (readQuoted? rest).map fun (text, rest) => (c :: text, rest)
  | c :: cs =>
    if isQuotable c then (readQuoted? cs).map fun (text, rest) => (c :: text, rest) else none
termination_by cs.length

end TtpConformance.Text
