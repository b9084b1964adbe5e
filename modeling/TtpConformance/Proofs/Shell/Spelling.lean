import Mathlib.Data.Bool.AllAny
import Mathlib.Data.List.Forall2
import TtpConformance.Shell.Grammar

/-!
# Spelling words for the shell

A text reaches a program as one word if it is spelled for the shell: characters that mean
nothing to the shell stand as they are, any other one behind a backslash or, but for the
few that double quotes leave their meaning, between double quotes.  The spellings of two
texts, one behind the other, spell both as one word.

What the shell reads of two commands that are put together out of spelled words, with a
space or an operator behind each, are those commands with those words again.

## Main definitions

* `IsOrdinary`, `IsLiteral` — characters that stand for themselves outside of quotes, and
  between double quotes.
* `Spells`, `SpellsWord` — what is written for a text, and for a word.
* `IsPlain`, `AllLiteral`, `IsProse` — texts that are words as they stand, that may stand
  between double quotes, and that are words with their spaces escaped.
* `SimpleCommand.Reads` — the texts of a command's words.
* `Says` — the text that a word without parameters has so far.

## Main statements

* `tokensFrom_of_spells` — a spelling adds its text to the word that it stands in.
* `tokensFrom_commandPair` — the words and operators of two commands.
* `parse_commandPair` — the commands that they form.
-/

namespace TtpConformance.Shell

/-! ## Spellings -/

/-- The characters that end a word or mean something to the shell. -/
def special : List Char :=
  [' ', '\t', '\n', '|', '&', ';', '<', '>', '(', ')', '$', '\x60', '\\', '\"', '\'']

/-- The characters that mean something to the shell between double quotes too. -/
def specialInQuotes : List Char := ['\"', '\\', '$', '\x60']

/-- A character that stands for itself outside of quotes. -/
def IsOrdinary (c : Char) : Prop := c ∉ special

/-- A character that stands for itself between double quotes. -/
def IsLiteral (c : Char) : Prop := c ∉ specialInQuotes

instance : DecidablePred IsOrdinary := fun c => inferInstanceAs (Decidable (c ∉ special))

instance : DecidablePred IsLiteral := fun c => inferInstanceAs (Decidable (c ∉ specialInQuotes))

/-- What is written for a text so that it is part of one word. -/
inductive Spells : (written text : List Char) → Prop
  | nil : Spells [] []
  | ordinary {c : Char} {written text : List Char} (hc : IsOrdinary c)
      (h : Spells written text) : Spells (c :: written) (c :: text)
  | escaped {c : Char} {written text : List Char} (hc : c ≠ '\n')
      (h : Spells written text) : Spells ('\\' :: c :: written) (c :: text)
  | quoted {cs written text : List Char} (hcs : ∀ c ∈ cs, IsLiteral c)
      (h : Spells written text) : Spells ('\"' :: cs ++ '\"' :: written) (cs ++ text)

variable {written written' text text' rest : List Char}

/-- Two spellings in a row spell the two texts in a row. -/
theorem Spells.append (h : Spells written text) (h' : Spells written' text') :
    Spells (written ++ written') (text ++ text') := by
  induction h with
  | nil => exact h'
  | ordinary hc _ ih => exact .ordinary hc ih
  | escaped hc _ ih => exact .escaped hc ih
  | quoted hcs _ ih => simpa using Spells.quoted hcs ih

/-- Ordinary characters spell themselves. -/
theorem Spells.of_isOrdinary (h : ∀ c ∈ text, IsOrdinary c) : Spells text text := by
  induction text with
  | nil => exact .nil
  | cons c cs ih =>
      exact .ordinary (h c List.mem_cons_self)
        (ih fun d hd => h d (List.mem_cons_of_mem c hd))

/-! ## What is read of a spelling -/

variable {word? : Option Word} {said : List Char}

/-- What a word that may have begun says so far. -/
def Says (word? : Option Word) (text : List Char) : Prop :=
  (word?.getD {}).plainText? = some (.ofList text)

theorem Says.push (h : Says word? said) (c : Char) (quoted : Bool) :
    Says (Word.push c quoted word?) (said ++ [c]) := by
  obtain ⟨cs, hpieces, htext⟩ := Option.map_eq_some_iff.mp h
  have hsaid : cs = said := String.ofList_injective htext
  change Option.map String.ofList (List.mapM _ ((word?.getD {}).pieces ++ [.char c quoted])) = _
  rw [List.mapM_append, hpieces, hsaid]
  rfl

theorem Says.openQuotes (h : Says word? said) : Says (Word.openQuotes word?) said := h

theorem tokensFrom_none_nil :
    tokensFrom .none word? [] = .ok (word?.toList.map .word) := by
  rw [tokensFrom]

theorem tokensFrom_none_escaped {c : Char} (hc : c ≠ '\n') :
    tokensFrom .none word? ('\\' :: c :: rest) =
      tokensFrom .none (Word.push c true word?) rest := by
  rw [tokensFrom]
  exact hc

theorem tokensFrom_none_quote :
    tokensFrom .none word? ('\"' :: rest) = tokensFrom .double (Word.openQuotes word?) rest := by
  rw [tokensFrom]

theorem tokensFrom_double_quote :
    tokensFrom .double word? ('\"' :: rest) = tokensFrom .none word? rest := by
  rw [tokensFrom]

/-- Between double quotes a literal character goes to the word. -/
theorem tokensFrom_double_literal {c : Char} (hc : IsLiteral c) :
    tokensFrom .double word? (c :: rest) =
      tokensFrom .double (Word.push c true word?) rest := by
  simp only [IsLiteral, specialInQuotes, List.mem_cons, List.not_mem_nil, not_or] at hc
  rw [tokensFrom]
  · split
    · rename_i hparameter
      rw [if_neg hc.2.2.1] at hparameter
      cases hparameter
    · exact if_pos rfl
  all_goals simp [hc]

/-- Outside of quotes, a character that begins neither quotes nor a parameter begins an
operator or a comment, ends a word or goes to it. -/
theorem tokensFrom_none_cons {c : Char} (hc : c ∉ ['\\', '\'', '\"', '$']) :
    tokensFrom .none word? (c :: rest) =
      match readOperator? (c :: rest) with
      | some (o, rest) => (tokensFrom .none none rest).map (endWord word? o)
      | none =>
        if c = ' ' ∨ c = '\t' then
          (tokensFrom .none none rest).map (word?.toList.map .word ++ ·)
        else if c = '#' ∧ word?.isNone then tokensFrom .none none (skipComment rest)
        else tokensFrom .none (Word.push c false word?) rest := by
  simp only [List.mem_cons, List.not_mem_nil, not_or] at hc
  rw [tokensFrom]
  · split
    · rename_i hparameter
      rw [if_neg hc.2.2.2.1] at hparameter
      cases hparameter
    · rw [if_neg Bool.false_ne_true]
      split <;> simp_all
  all_goals simp [hc]

theorem readOperator?_ordinary {c : Char} (hc : IsOrdinary c) (rest : List Char) :
    readOperator? (c :: rest) = none := by
  simp only [IsOrdinary, special, List.mem_cons, List.not_mem_nil, not_or] at hc
  unfold readOperator?
  split <;> simp_all

/-- Outside of quotes an ordinary character goes to the word, unless it begins a comment. -/
theorem tokensFrom_none_ordinary {c : Char} (hc : IsOrdinary c)
    (hcomment : word? = none → c ≠ '#') :
    tokensFrom .none word? (c :: rest) =
      tokensFrom .none (Word.push c false word?) rest := by
  have hoperator := readOperator?_ordinary hc rest
  simp only [IsOrdinary, special, List.mem_cons, List.not_mem_nil, not_or] at hc
  rw [tokensFrom_none_cons (by simp [hc]), hoperator]
  have hspace : ¬(c = ' ' ∨ c = '\t') := by simp [hc]
  have hnot : ¬(c = '#' ∧ word?.isNone = true) := fun h =>
    hcomment (Option.isNone_iff_eq_none.mp h.2) h.1
  exact (if_neg hspace).trans (if_neg hnot)

/-- Literal characters up to the closing quote. -/
theorem tokensFrom_double_close {cs : List Char} (hcs : ∀ c ∈ cs, IsLiteral c) {w : Word}
    (hw : Says (some w) said) (rest : List Char) :
    ∃ w', Says (some w') (said ++ cs) ∧
      tokensFrom .double (some w) (cs ++ '\"' :: rest) = tokensFrom .none (some w') rest := by
  induction cs generalizing w said with
  | nil => exact ⟨w, by simpa using hw, tokensFrom_double_quote⟩
  | cons c cs ih =>
      obtain ⟨w', hsays, hread⟩ := ih (fun d hd => hcs d (List.mem_cons_of_mem c hd))
        (hw.push c true)
      refine ⟨w', by simpa using hsays, ?_⟩
      rw [List.cons_append, tokensFrom_double_literal (hcs c List.mem_cons_self)]
      exact hread

/-- A spelling adds the text that it spells to the word that it stands in. -/
theorem tokensFrom_of_spells (h : Spells written text) {w : Word} (hw : Says (some w) said)
    (rest : List Char) :
    ∃ w', Says (some w') (said ++ text) ∧
      tokensFrom .none (some w) (written ++ rest) = tokensFrom .none (some w') rest := by
  induction h generalizing w said with
  | nil => exact ⟨w, by simpa using hw, rfl⟩
  | @ordinary c written text hc _ ih =>
      obtain ⟨w', hsays, hread⟩ := ih (hw.push c false)
      refine ⟨w', by simpa using hsays, ?_⟩
      rw [List.cons_append, tokensFrom_none_ordinary hc (fun h => by cases h)]
      exact hread
  | @escaped c written text hc _ ih =>
      obtain ⟨w', hsays, hread⟩ := ih (hw.push c true)
      refine ⟨w', by simpa using hsays, ?_⟩
      rw [List.cons_append, List.cons_append, tokensFrom_none_escaped hc]
      exact hread
  | @quoted cs written text hcs _ ih =>
      obtain ⟨w₁, hsays₁, hread₁⟩ := tokensFrom_double_close hcs hw.openQuotes (written ++ rest)
      obtain ⟨w₂, hsays₂, hread₂⟩ := ih hsays₁
      refine ⟨w₂, by simpa using hsays₂, ?_⟩
      rw [← hread₂, ← hread₁, List.append_assoc, List.cons_append, List.cons_append]
      exact tokensFrom_none_quote

/-! ## Whole words -/

/-- What is written for a text so that it is a word. -/
structure SpellsWord (written : List Char) (word : String) : Prop where
  spells : Spells written word.toList
  ne_nil : written ≠ []
  /-- It does not begin a comment. -/
  head : written.head? ≠ some '#'

section WholeWord

variable {word : String}

/-- A spelling begins a word. -/
theorem SpellsWord.tokensFrom_none (h : SpellsWord written word) :
    tokensFrom .none none (written ++ rest) = tokensFrom .none (some {}) (written ++ rest) := by
  obtain ⟨hspells, hne, hhead⟩ := h
  generalize word.toList = text at hspells
  cases hspells with
  | nil => exact absurd rfl hne
  | @ordinary c written text hc _ =>
      have hcomment : c ≠ '#' := fun h => hhead (congrArg some h)
      rw [List.cons_append, tokensFrom_none_ordinary hc fun _ => hcomment,
        tokensFrom_none_ordinary hc fun _ => hcomment]
      rfl
  | escaped hc _ =>
      rw [List.cons_append, List.cons_append, tokensFrom_none_escaped hc,
        tokensFrom_none_escaped hc]
      rfl
  | quoted _ _ =>
      rw [List.cons_append, List.cons_append, tokensFrom_none_quote, tokensFrom_none_quote]
      rfl

/-- A spelled word is read up to its end. -/
theorem SpellsWord.exists_word (h : SpellsWord written word) (rest : List Char) :
    ∃ w : Word, w.plainText? = some word ∧
      tokensFrom .none none (written ++ rest) = tokensFrom .none (some w) rest := by
  have hnothing : Says (some {}) [] := rfl
  obtain ⟨w, hsays, hread⟩ := tokensFrom_of_spells h.spells hnothing rest
  refine ⟨w, ?_, h.tokensFrom_none.trans hread⟩
  rw [← String.ofList_toList (s := word)]
  exact hsays

end WholeWord

/-! ## Texts by their characters -/

/-- A text that is a word as it stands: there is something, nothing of it is white space or
means something to the shell, and it does not begin a comment. -/
structure IsPlain (text : String) : Prop where
  ne_nil : text.toList ≠ []
  head : text.toList.head? ≠ some '#'
  ordinary : ∀ c ∈ text.toList, IsOrdinary c

-- a bounded quantifier over characters would be decided for every character there is
instance (text : String) : Decidable (IsPlain text) :=
  decidable_of_iff (text.toList ≠ [] ∧ text.toList.head? ≠ some '#' ∧
      text.toList.all (IsOrdinary ·) = true)
    ⟨fun ⟨hne, hhead, hall⟩ => ⟨hne, hhead, List.all_iff_forall_prop.mp hall⟩,
      fun ⟨hne, hhead, hall⟩ => ⟨hne, hhead, List.all_iff_forall_prop.mpr hall⟩⟩

namespace IsPlain

variable {front back word : String}

theorem spellsWord (h : IsPlain word) : SpellsWord word.toList word where
  spells := .of_isOrdinary h.ordinary
  ne_nil := h.ne_nil
  head := h.head

/-- A plain beginning with another spelling behind it. -/
theorem spellsWord_append (h : IsPlain front) (hwritten : Spells written back.toList) :
    SpellsWord (front.toList ++ written) (front ++ back) where
  spells := String.toList_append ▸ (Spells.of_isOrdinary h.ordinary).append hwritten
  ne_nil := List.append_ne_nil_of_left_ne_nil h.ne_nil _
  head := by
    rw [List.head?_append_of_ne_nil _ h.ne_nil]
    exact h.head

theorem append (h : IsPlain front) (h' : ∀ c ∈ back.toList, IsOrdinary c) :
    IsPlain (front ++ back) := by
  refine ⟨?_, ?_, ?_⟩ <;> rw [String.toList_append]
  · exact List.append_ne_nil_of_left_ne_nil h.ne_nil _
  · rw [List.head?_append_of_ne_nil _ h.ne_nil]
    exact h.head
  · exact fun c hc => (List.mem_append.mp hc).elim (h.ordinary c) (h' c)

end IsPlain

/-- A text whose characters stand for themselves between double quotes. -/
def AllLiteral (text : String) : Prop := ∀ c ∈ text.toList, IsLiteral c

instance (text : String) : Decidable (AllLiteral text) :=
  decidable_of_iff (text.toList.all (IsLiteral ·) = true) List.all_iff_forall_prop

theorem AllLiteral.append {front back : String} (h : AllLiteral front) (h' : AllLiteral back) :
    AllLiteral (front ++ back) := by
  intro c hc
  rw [String.toList_append] at hc
  exact (List.mem_append.mp hc).elim (h c) (h' c)

/-- A text of ordinary characters and spaces. -/
def IsProse (text : String) : Prop := ∀ c ∈ text.toList, c = ' ' ∨ IsOrdinary c

theorem IsProse.ofList {cs : List Char} (h : cs.all fun c => c = ' ' ∨ IsOrdinary c) :
    IsProse (.ofList cs) := by
  rw [IsProse, String.toList_ofList]
  exact List.all_iff_forall_prop.mp h

theorem IsProse.append {front back : String} (h : IsProse front) (h' : IsProse back) :
    IsProse (front ++ back) := by
  intro c hc
  rw [String.toList_append] at hc
  exact (List.mem_append.mp hc).elim (h c) (h' c)

/-! ## Words in a row -/

theorem tokensFrom_none_space :
    tokensFrom .none word? (' ' :: rest) =
      (tokensFrom .none none rest).map (word?.toList.map .word ++ ·) :=
  tokensFrom_none_cons (by decide)

theorem tokensFrom_none_semicolon :
    tokensFrom .none word? (';' :: rest) =
      (tokensFrom .none none rest).map (endWord word? .semicolon) :=
  tokensFrom_none_cons (by decide)

theorem tokensFrom_none_write :
    tokensFrom .none none ('>' :: ' ' :: rest) =
      (tokensFrom .none none rest).map (.operator (.redirect 1 .write) :: ·) := by
  have hoperator : readOperator? ('>' :: ' ' :: rest) = some (.redirect 1 .write, ' ' :: rest) := by
    simp [readOperator?]
  rw [tokensFrom_none_cons (by decide), hoperator]
  simp only [tokensFrom_none_space]
  cases tokensFrom .none none rest <;> rfl

/-- Words with a space behind each. -/
theorem tokensFrom_words {writtens : List (List Char)} {words : List String}
    (h : List.Forall₂ SpellsWord writtens words) (rest : List Char) :
    ∃ ws : List Word, ws.map Word.plainText? = words.map some ∧
      tokensFrom .none none (writtens.flatMap (· ++ [' ']) ++ rest) =
        (tokensFrom .none none rest).map (ws.map .word ++ ·) := by
  induction h with
  | nil =>
      refine ⟨[], rfl, ?_⟩
      rw [List.flatMap_nil, List.nil_append]
      cases tokensFrom .none none rest <;> rfl
  | @cons written word writtens words hword _ ih =>
      obtain ⟨ws, htexts, hread⟩ := ih
      obtain ⟨w, htext, hfirst⟩ := hword.exists_word
        (' ' :: (writtens.flatMap (· ++ [' ']) ++ rest))
      refine ⟨w :: ws, by simp [htext, htexts], ?_⟩
      have hsplit : (written :: writtens).flatMap (· ++ [' ']) ++ rest =
          written ++ ' ' :: (writtens.flatMap (· ++ [' ']) ++ rest) := by simp
      rw [hsplit, hfirst, tokensFrom_none_space, hread]
      cases tokensFrom .none none rest <;> rfl

/-! ## Commands -/

section Commands

variable {w : Word} {s : String} {c : SimpleCommand} {ts rest : List Token}

/-- The words of a command, and what is redirected for it, as texts. -/
structure SimpleCommand.Reads (c : SimpleCommand) (words : List String)
    (redirects : List (Nat × Redirection × String)) : Prop where
  words : c.words.map Word.plainText? = words.map some
  redirects : c.redirects.map (fun r => (r.descriptor, r.redirection, r.target.plainText?)) =
    redirects.map fun (descriptor, redirection, target) => (descriptor, redirection, some target)

theorem parseSimple_words (ws : List Word) (ts : List Token) :
    parseSimple (ws.map .word ++ ts) =
      (parseSimple ts).map fun (c, rest) => ({ c with words := ws ++ c.words }, rest) := by
  induction ws with
  | nil => cases h : parseSimple ts <;> simp [h, Except.map]
  | cons w ws ih =>
      rw [List.map_cons, List.cons_append, parseSimple, ih]
      cases parseSimple ts <;> rfl

theorem parseSimple_semicolon (ts : List Token) :
    parseSimple (.operator .semicolon :: ts) = .ok ({}, .operator .semicolon :: ts) := by
  simp [parseSimple]

theorem parseSimple_write (target : Word) :
    parseSimple [.operator (.redirect 1 .write), .word target] =
      .ok ({ redirects := [⟨1, .write, target⟩] }, []) := by
  simp [parseSimple, Except.map]

/-- A word that is a word of the grammar where a command begins. -/
def IsReserved (s : String) : Prop := s ∈ ["\x7b", "\x7d", "!"]

instance : DecidablePred IsReserved := fun s => inferInstanceAs (Decidable (s ∈ _))

theorem bare?_ne_of_not_isReserved (hw : w.plainText? = some s) (hs : ¬IsReserved s) :
    bare? w ≠ some "\x7b" ∧ bare? w ≠ some "\x7d" ∧ bare? w ≠ some "!" := by
  have hbare : ∀ r, bare? w = some r → s = r := by
    intro r hr
    unfold bare? at hr
    split at hr
    · cases hr
    · rw [hw] at hr
      exact Option.some.inj hr
  refine ⟨fun h => hs ?_, fun h => hs ?_, fun h => hs ?_⟩ <;> rw [hbare _ h] <;> decide

/-- A simple command, at the end or with a semicolon behind it, is a pipeline. -/
theorem parsePipeline_simple (fuel : Nat) (hw : w.plainText? = some s) (hs : ¬IsReserved s)
    (hsimple : parseSimple (.word w :: ts) = .ok (c, rest))
    (hrest : rest = [] ∨ ∃ ts, rest = .operator .semicolon :: ts) :
    parsePipeline (fuel + 3) (.word w :: ts) = .ok (.simple c, rest) := by
  obtain ⟨hopen, hclose, hinvert⟩ := bare?_ne_of_not_isReserved hw hs
  have hcommand : parseCommand (fuel + 1) (.word w :: ts) = .ok (.simple c, rest) := by
    simp only [parseCommand, if_neg hopen, if_neg hclose, hsimple]
    rfl
  simp only [parsePipeline, if_neg hinvert, parsePipes, hcommand]
  rcases hrest with rfl | ⟨ts, rfl⟩ <;> rfl

theorem endsList_word (hw : w.plainText? = some s) (hs : ¬IsReserved s) (ts : List Token) :
    endsList (skipNewlines (.word w :: ts)) = false := by
  obtain ⟨-, hclose, -⟩ := bare?_ne_of_not_isReserved hw hs
  simpa [endsList, skipNewlines] using hclose

theorem parseList_simple (fuel : Nat) (hw : w.plainText? = some s) (hs : ¬IsReserved s)
    (hsimple : parseSimple (.word w :: ts) = .ok (c, [])) :
    parseList (fuel + 4) (.word w :: ts) = .ok (.simple c, []) := by
  have hskip : skipNewlines (.word w :: ts) = .word w :: ts := rfl
  have hends := endsList_word hw hs ts
  rw [parseList, hskip] at *
  simp only [hends, parsePipeline_simple fuel hw hs hsimple (.inl rfl)]
  rfl

theorem parseList_sequence (fuel : Nat) (hw : w.plainText? = some s) (hs : ¬IsReserved s)
    (hsimple : parseSimple (.word w :: ts) = .ok (c, .operator .semicolon :: rest)) :
    parseList (fuel + 4) (.word w :: ts) =
      (parseList (fuel + 3) rest).map fun (second, rest) => (.sequence (.simple c) second, rest) := by
  have hskip : skipNewlines (.word w :: ts) = .word w :: ts := rfl
  have hends := endsList_word hw hs ts
  rw [parseList, hskip] at *
  simp only [hends, parsePipeline_simple fuel hw hs hsimple (.inr ⟨rest, rfl⟩)]
  simp only [bind, Except.bind, parseChain]
  cases parseList (fuel + 3) rest <;> rfl

end Commands

/-! ## Command lines -/

section CommandLines

variable {fronts writtens : List (List Char)} {frontWords words : List String}
  {last target : List Char} {lastWord targetWord : String}

/-- Two commands of spelled words, the second of which writes to a file. -/
def commandPair (fronts : List (List Char)) (last : List Char) (writtens : List (List Char))
    (target : List Char) : List Char :=
  fronts.flatMap (· ++ [' ']) ++ last ++ ';' :: ' ' ::
    (writtens.flatMap (· ++ [' ']) ++ '>' :: ' ' :: target)

/-- The tokens of two such commands. -/
theorem tokensFrom_commandPair (hfronts : List.Forall₂ SpellsWord fronts frontWords)
    (hlast : SpellsWord last lastWord) (hwords : List.Forall₂ SpellsWord writtens words)
    (htarget : SpellsWord target targetWord) :
    ∃ ws ws' : List Word, ∃ t : Word,
      ws.map Word.plainText? = (frontWords ++ [lastWord]).map some ∧
      ws'.map Word.plainText? = words.map some ∧
      t.plainText? = some targetWord ∧
      tokensFrom .none none (commandPair fronts last writtens target) =
        .ok (ws.map .word ++ .operator .semicolon :: (ws'.map .word ++
          [.operator (.redirect 1 .write), .word t])) := by
  obtain ⟨t, htext, hend⟩ := htarget.exists_word []
  obtain ⟨ws', htexts', hwords⟩ := tokensFrom_words hwords ('>' :: ' ' :: target)
  obtain ⟨w, hlastText, hw⟩ := hlast.exists_word
    (';' :: ' ' :: (writtens.flatMap (· ++ [' ']) ++ '>' :: ' ' :: target))
  obtain ⟨ws, htexts, hread⟩ := tokensFrom_words hfronts
    (last ++ ';' :: ' ' :: (writtens.flatMap (· ++ [' ']) ++ '>' :: ' ' :: target))
  refine ⟨ws ++ [w], ws', t, by simp [htexts, hlastText], htexts', htext, ?_⟩
  rw [List.append_nil, tokensFrom_none_nil] at hend
  rw [commandPair, List.append_assoc, hread, hw, tokensFrom_none_semicolon, tokensFrom_none_space,
    hwords, tokensFrom_none_write, hend]
  simp [Except.map, endWord]

/-- Two such commands are read as what their words spell. -/
theorem parse_commandPair (hfronts : List.Forall₂ SpellsWord fronts frontWords)
    (hlast : SpellsWord last lastWord) (hwords : List.Forall₂ SpellsWord writtens words)
    (htarget : SpellsWord target targetWord)
    (hfirst : ∃ name args, frontWords = name :: args ∧ ¬IsReserved name)
    (hsecond : ∃ name args, words = name :: args ∧ ¬IsReserved name) :
    ∃ first second, parse (.ofList (commandPair fronts last writtens target)) =
        .ok (.sequence (.simple first) (.simple second)) ∧
      first.Reads (frontWords ++ [lastWord]) [] ∧
      second.Reads words [(1, .write, targetWord)] := by
  obtain ⟨ws, ws', t, htexts, htexts', htext, htokens⟩ :=
    tokensFrom_commandPair hfronts hlast hwords htarget
  obtain ⟨name, args, rfl, hname⟩ := hfirst
  obtain ⟨name', args', rfl, hname'⟩ := hsecond
  obtain ⟨w, ws, rfl, hw, -⟩ := List.map_eq_cons_iff.mp htexts
  obtain ⟨w', ws', rfl, hw', -⟩ := List.map_eq_cons_iff.mp htexts'
  have hcall : parseSimple ((w' :: ws').map .word ++ [.operator (.redirect 1 .write), .word t]) =
      .ok (⟨w' :: ws', [⟨1, .write, t⟩]⟩, []) := by
    rw [parseSimple_words, parseSimple_write]
    simp [Except.map]
  have hchange (ts : List Token) :
      parseSimple ((w :: ws).map .word ++ .operator .semicolon :: ts) =
        .ok (⟨w :: ws, []⟩, .operator .semicolon :: ts) := by
    rw [parseSimple_words, parseSimple_semicolon]
    simp [Except.map]
  have htree (fuel : Nat) : parseList (fuel + 5) ((w :: ws).map .word ++ .operator .semicolon ::
      ((w' :: ws').map .word ++ [.operator (.redirect 1 .write), .word t])) =
      .ok (.sequence (.simple ⟨w :: ws, []⟩) (.simple ⟨w' :: ws', [⟨1, .write, t⟩]⟩), []) := by
    have hsecond := parseList_simple fuel hw' hname' hcall
    exact (parseList_sequence (fuel + 1) hw hname (hchange _)).trans
      (congrArg (Except.map _) hsecond)
  refine ⟨⟨w :: ws, []⟩, ⟨w' :: ws', [⟨1, .write, t⟩]⟩, ?_, ⟨htexts, rfl⟩,
    ⟨htexts', by simp [htext]⟩⟩
  rw [parse, tokens, String.toList_ofList, htokens]
  simp only [bind, Except.bind, htree]
  rfl

end CommandLines

end TtpConformance.Shell
