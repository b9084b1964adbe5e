import Mathlib.Data.List.TakeWhile
import TtpConformance.Text.Lines

/-!
# Cutting what was joined

A text is cut at the characters of a class, and a cut at one of them cuts the two sides
on their own.  Words and lines are such pieces, so what they are of a text that was put
together follows from what they are of its parts.

Only the last line of a text may lose something, namely itself if it is empty, and only
the others lose their carriage returns.  What a reader of single lines makes of a text
is not affected by either, if it makes nothing of an empty line and does not look at
carriage returns.

What is left of a text once the characters of a class are dropped around it is the one text
with firm ends to which the rest adds nothing else.

## Main definitions

* `FirmEnds`, `Encloses` — texts that nothing is dropped around, and texts around them.
* `IsWord`, `HasWords` — words, and the texts that have them.

## Main statements

* `splitBy_eq_splitOnP` — cutting is the library's.
* `flatMap_splitBy` — pieces that are cut again.
* `cutAt_eq_some_iff` — the two sides of the first cut.
* `dropAround_eq_iff`, `dropAround_append` — what is dropped around a text.
* `words_append_blank`, `words_eq_singleton`, `words_append_spaced` — the words of the
  parts.
* `words_eq_iff` — the words of a text.
* `flatMap_lines_intercalate` — what is made of the lines of a text that was joined.
-/

namespace TtpConformance.Text

/-- A character that is not of a class is not in a text of characters of that class. -/
theorem not_mem_of_forall {p : Char → Bool} {c : Char} {cs : List Char} (hc : p c = false)
    (h : ∀ d ∈ cs, p d = true) : c ∉ cs :=
  fun hmem => Bool.false_ne_true (hc.symm.trans (h c hmem))

/-! ## Pieces -/

/-- Cutting a text is the library's function. -/
theorem splitBy_eq_splitOnP (p : Char → Bool) (cs : List Char) :
    splitBy p cs = cs.splitOnP p := by
  induction cs with
  | nil => simp
  | cons c cs ih =>
      rw [splitBy, List.splitOnP_cons_eq_if_modifyHead, ih]
      split
      · rfl
      · cases hpieces : cs.splitOnP p with
        | nil => exact absurd hpieces (List.splitOnP_ne_nil p cs)
        | cons piece pieces => rfl

theorem splitBy_append_cons {p : Char → Bool} {c : Char} (hc : p c = true)
    (xs ys : List Char) : splitBy p (xs ++ c :: ys) = splitBy p xs ++ splitBy p ys := by
  simp only [splitBy_eq_splitOnP]
  exact List.splitOnP_append_cons xs ys hc

theorem splitBy_eq_singleton {p : Char → Bool} {cs : List Char}
    (h : ∀ c ∈ cs, p c = false) : splitBy p cs = [cs] := by
  rw [splitBy_eq_splitOnP]
  exact List.splitOnP_eq_singleton h

theorem splitBy_intercalate {c : Char} {pieces : List (List Char)}
    (h : ∀ piece ∈ pieces, c ∉ piece) (hne : pieces ≠ []) :
    splitBy (· == c) ([c].intercalate pieces) = pieces := by
  rw [splitBy_eq_splitOnP]
  exact List.splitOn_intercalate c h hne

theorem intercalate_splitBy (c : Char) (cs : List Char) :
    [c].intercalate (splitBy (· == c) cs) = cs := by
  rw [splitBy_eq_splitOnP]
  exact List.intercalate_splitOn c

/-- Characters that are put for others make other pieces, but not others than those ones. -/
theorem splitBy_map {p : Char → Bool} {f : Char → Char} (h : ∀ c, p (f c) = p c)
    (cs : List Char) : splitBy p (cs.map f) = (splitBy p cs).map (List.map f) := by
  induction cs with
  | nil => rfl
  | cons c cs ih =>
      obtain ⟨piece, pieces, hpieces⟩ := List.exists_cons_of_ne_nil (splitBy_ne_nil p cs)
      rw [List.map_cons, splitBy, splitBy, h, ih, hpieces]
      split <;> rfl

/-- Two runs of pieces, joined with the separator between them. -/
theorem intercalate_append (c : Char) {xs ys : List (List Char)} (hxs : xs ≠ []) (hys : ys ≠ []) :
    [c].intercalate (xs ++ ys) = [c].intercalate xs ++ c :: [c].intercalate ys := by
  induction xs with
  | nil => exact absurd rfl hxs
  | cons x xs ih =>
      by_cases hlast : xs = []
      · subst hlast
        rw [List.singleton_append, List.intercalate_cons_of_ne_nil hys,
          List.intercalate_singleton, List.append_assoc]
        rfl
      · rw [List.cons_append, List.intercalate_cons_of_ne_nil (by simp [hlast]), ih hlast,
          List.intercalate_cons_of_ne_nil hlast]
        simp

/-- What stands in a joined text is a separator or stands in a piece. -/
theorem mem_intercalate_cases {c d : Char} {pieces : List (List Char)}
    (h : d ∈ [c].intercalate pieces) : d = c ∨ ∃ piece ∈ pieces, d ∈ piece := by
  induction pieces with
  | nil => simp at h
  | cons piece pieces ih =>
      by_cases hlast : pieces = []
      · subst hlast
        rw [List.intercalate_singleton] at h
        exact .inr ⟨piece, List.mem_cons_self, h⟩
      · rw [List.intercalate_cons_of_ne_nil hlast, List.mem_append, List.mem_append,
          List.mem_singleton] at h
        rcases h with (hpiece | hsep) | hrest
        · exact .inr ⟨piece, List.mem_cons_self, hpiece⟩
        · exact .inl hsep
        · obtain hsep | ⟨other, hother, hd⟩ := ih hrest
          · exact .inl hsep
          · exact .inr ⟨other, List.mem_cons_of_mem piece hother, hd⟩

/-- Pieces that are cut again are the pieces between the characters of either class. -/
theorem flatMap_splitBy (p q : Char → Bool) (cs : List Char) :
    (splitBy q cs).flatMap (splitBy p) = splitBy (fun c => q c || p c) cs := by
  induction cs with
  | nil => rfl
  | cons c cs ih =>
      cases hq : q c with
      | true => simp [splitBy, hq, ih]
      | false =>
          obtain ⟨piece, pieces, hpieces⟩ := List.exists_cons_of_ne_nil (splitBy_ne_nil q cs)
          obtain ⟨inner, inners, hinner⟩ := List.exists_cons_of_ne_nil (splitBy_ne_nil p piece)
          rw [hpieces, List.flatMap_cons, hinner] at ih
          cases hp : p c with
          | true => simp [splitBy, hq, hp, hpieces, hinner, ← ih]
          | false => simp [splitBy, hq, hp, hpieces, hinner, ← ih]

/-- A character that does not separate pieces goes to the end of the last one. -/
theorem exists_splitBy_concat {p : Char → Bool} {c : Char} (hc : p c = false) (cs : List Char) :
    ∃ pieces last, splitBy p cs = pieces ++ [last] ∧
      splitBy p (cs ++ [c]) = pieces ++ [last ++ [c]] := by
  induction cs with
  | nil => exact ⟨[], [], rfl, by simp [splitBy, hc]⟩
  | cons d cs ih =>
      obtain ⟨pieces, last, hpieces, hconcat⟩ := ih
      cases hd : p d with
      | true => exact ⟨[] :: pieces, last, by simp [splitBy, hd, hpieces],
          by simp [splitBy, hd, hconcat]⟩
      | false =>
          cases pieces with
          | nil => exact ⟨[], d :: last, by simp [splitBy, hd, hpieces],
              by simp [splitBy, hd, hconcat]⟩
          | cons piece pieces => exact ⟨(d :: piece) :: pieces, last,
              by simp [splitBy, hd, hpieces], by simp [splitBy, hd, hconcat]⟩

/-- A text is cut at the first of the characters that it may be cut at. -/
theorem cutAt_eq_some_iff {c : Char} {cs before after : List Char} :
    cutAt c cs = some (before, after) ↔ cs = before ++ c :: after ∧ c ∉ before := by
  induction cs generalizing before after with
  | nil => simp [cutAt]
  | cons d cs ih =>
      rw [cutAt]
      split
      · rename_i hd
        cases before <;> simp_all
      · rename_i hd
        rw [Option.map_eq_some_iff]
        constructor
        · rintro ⟨⟨front, back⟩, hcut, heq⟩
          cases heq
          obtain ⟨rfl, hfront⟩ := ih.mp hcut
          exact ⟨rfl, by simp [Ne.symm hd, hfront]⟩
        · rintro ⟨htext, hbefore⟩
          cases before with
          | nil => exact absurd (List.cons.inj htext).1 hd
          | cons e before =>
              obtain ⟨rfl, rfl⟩ := List.cons.inj htext
              exact ⟨(before, after),
                ih.mpr ⟨rfl, fun h => hbefore (List.mem_cons_of_mem d h)⟩, rfl⟩

/-- A character that is not the one to cut at goes to what stands behind the cut. -/
theorem cutAt_concat {c d : Char} (h : d ≠ c) (cs : List Char) :
    cutAt c (cs ++ [d]) = (cutAt c cs).map fun (before, after) => (before, after ++ [d]) := by
  induction cs with
  | nil => simp [cutAt, h]
  | cons e cs ih =>
      rw [List.cons_append, cutAt, cutAt]
      split
      · rfl
      · rw [ih, Option.map_map, Option.map_map]
        rfl

/-! ## Trimming -/

section Trimming

variable {p : Char → Bool} {text core : List Char}

/-- A text neither of whose ends is of the class. -/
structure FirmEnds (p : Char → Bool) (cs : List Char) : Prop where
  head : ∀ c ∈ cs.head?, p c = false
  last : ∀ c ∈ cs.getLast?, p c = false

theorem firmEnds_iff {p : Char → Bool} {cs : List Char} :
    FirmEnds p cs ↔ cs.head?.all (! p ·) = true ∧ cs.getLast?.all (! p ·) = true := by
  simp only [Option.all_eq_true, Bool.not_eq_true']
  exact ⟨fun ⟨hhead, hlast⟩ => ⟨hhead, hlast⟩, fun ⟨hhead, hlast⟩ => ⟨hhead, hlast⟩⟩

instance (p : Char → Bool) (cs : List Char) : Decidable (FirmEnds p cs) :=
  decidable_of_iff _ firmEnds_iff.symm

/-- A text around another one with firm ends, to which it adds nothing but characters of the
class. -/
structure Encloses (p : Char → Bool) (text core : List Char) : Prop extends FirmEnds p core where
  around : ∃ before after, text = before ++ core ++ after ∧ (∀ c ∈ before, p c = true) ∧
    ∀ c ∈ after, p c = true

theorem FirmEnds.of_forall (h : ∀ c ∈ core, p c = false) : FirmEnds p core where
  head c hc := h c (List.mem_of_head? hc)
  last c hc := h c (List.mem_of_getLast? hc)

theorem FirmEnds.dropWhile_eq_self (h : FirmEnds p core) : core.dropWhile p = core := by
  cases core with
  | nil => rfl
  | cons c cs => exact List.dropWhile_cons_of_neg (by simp [h.head c rfl])

theorem FirmEnds.dropEnd_eq_self (h : FirmEnds p core) : dropEnd p core = core := by
  have hreverse : FirmEnds p core.reverse :=
    ⟨fun c hc => h.last c (by simpa using hc), fun c hc => h.head c (by simpa using hc)⟩
  rw [dropEnd, hreverse.dropWhile_eq_self, List.reverse_reverse]

theorem dropEnd_append {after : List Char} (hafter : ∀ c ∈ after, p c = true) :
    dropEnd p (text ++ after) = dropEnd p text := by
  rw [dropEnd, List.reverse_append,
    List.dropWhile_append_of_pos fun c hc => hafter c (List.mem_reverse.mp hc), dropEnd]

/-- What is dropped is of the class, on either side of what is kept. -/
theorem exists_append_dropAround (p : Char → Bool) (cs : List Char) :
    ∃ before after, cs = before ++ dropAround p cs ++ after ∧ (∀ c ∈ before, p c = true) ∧
      ∀ c ∈ after, p c = true := by
  have hback : ∀ ds : List Char, ds = dropEnd p ds ++ (ds.reverse.takeWhile p).reverse := by
    intro ds
    rw [dropEnd, ← List.reverse_append, List.takeWhile_append_dropWhile, List.reverse_reverse]
  refine ⟨cs.takeWhile p, ((cs.dropWhile p).reverse.takeWhile p).reverse, ?_, ?_, ?_⟩
  · rw [dropAround, List.append_assoc, ← hback, List.takeWhile_append_dropWhile]
  · exact fun c hc => List.mem_takeWhile_imp hc
  · exact fun c hc => List.mem_takeWhile_imp (List.mem_reverse.mp hc)

theorem firmEnds_dropAround (p : Char → Bool) (cs : List Char) : FirmEnds p (dropAround p cs) := by
  have hfirst : ∀ (ds : List Char), ∀ c ∈ (ds.dropWhile p).head?, p c = false := by
    intro ds c hc
    have hnot := List.head?_dropWhile_not p ds
    rw [Option.mem_def.mp hc] at hnot
    simpa using hnot
  constructor
  · intro c hc
    -- what is kept starts like the text behind the first characters of the class
    have hfront : dropAround p cs <+: cs.dropWhile p := by
      rw [dropAround, dropEnd, ← List.reverse_suffix, List.reverse_reverse]
      exact List.dropWhile_suffix p
    obtain ⟨rest, hrest⟩ := hfront
    refine hfirst cs c ?_
    rw [← hrest, List.head?_append, Option.mem_def.mp hc]
    rfl
  · intro c hc
    rw [dropAround, dropEnd, List.getLast?_reverse] at hc
    exact hfirst _ c hc

/-- What is left is the one text with firm ends that the whole adds characters of the class to. -/
theorem dropAround_eq_iff : dropAround p text = core ↔ Encloses p text core := by
  constructor
  · rintro rfl
    exact ⟨firmEnds_dropAround p text, exists_append_dropAround p text⟩
  · rintro ⟨hfirm, before, after, rfl, hbefore, hafter⟩
    rw [dropAround, List.append_assoc, List.dropWhile_append_of_pos hbefore]
    by_cases hnil : core = []
    · subst hnil
      rw [List.nil_append, List.dropWhile_eq_nil_iff.mpr hafter]
      rfl
    · have hdrop : (core ++ after).dropWhile p = core ++ after := by
        obtain ⟨c, cs, rfl⟩ := List.exists_cons_of_ne_nil hnil
        exact List.dropWhile_cons_of_neg (by simp [hfirm.head c rfl])
      rw [hdrop, dropEnd_append hafter, hfirm.dropEnd_eq_self]

/-- There is nothing to drop where no character is of the class. -/
theorem dropAround_eq_self (h : ∀ c ∈ core, p c = false) : dropAround p core = core :=
  dropAround_eq_iff.mpr ⟨.of_forall h, [], [], by simp, by simp, by simp⟩

/-- Characters of the class are dropped around a text without any. -/
theorem dropAround_append {before core after : List Char} (hbefore : ∀ c ∈ before, p c = true)
    (hcore : ∀ c ∈ core, p c = false) (hafter : ∀ c ∈ after, p c = true) :
    dropAround p (before ++ core ++ after) = core :=
  dropAround_eq_iff.mpr ⟨.of_forall hcore, before, after, rfl, hbefore, hafter⟩

/-- More characters of the class behind a text make no difference. -/
theorem dropAround_append_of_forall {more : List Char} (h : ∀ c ∈ more, p c = true) :
    dropAround p (text ++ more) = dropAround p text := by
  obtain ⟨before, after, htext, hbefore, hafter⟩ := exists_append_dropAround p text
  rw [dropAround_eq_iff]
  refine ⟨firmEnds_dropAround p text, before, after ++ more, ?_, hbefore, ?_⟩
  · rw [← List.append_assoc, ← htext]
  · exact fun c hc => (List.mem_append.mp hc).elim (hafter c) (h c)

end Trimming

/-! ## Words -/

/-- The words of a text are those before a blank and those behind it. -/
theorem words_append_blank {c : Char} (hc : isBlank c = true) (xs ys : List Char) :
    words (xs ++ c :: ys) = words xs ++ words ys := by
  rw [words, splitBy_append_cons hc, List.filter_append]
  rfl

theorem words_nil : words [] = [] := rfl

theorem words_eq_singleton {cs : List Char} (hne : cs ≠ [])
    (h : ∀ c ∈ cs, isBlank c = false) : words cs = [cs] := by
  rw [words, splitBy_eq_singleton h]
  simp [hne]

/-- A blank in front belongs to no word. -/
theorem words_cons_blank {c : Char} (hc : isBlank c = true) (cs : List Char) :
    words (c :: cs) = words cs := words_append_blank hc [] cs

theorem words_spaces_append (n : Nat) (cs : List Char) :
    words (List.replicate n ' ' ++ cs) = words cs := by
  induction n with
  | zero => rfl
  | succ n ih =>
      rw [List.replicate_succ, List.cons_append, words_cons_blank (by decide)]
      exact ih

/-- Words that are put behind a text with a space before each. -/
theorem words_append_spaced {args : List (List Char)}
    (h : ∀ arg ∈ args, arg ≠ [] ∧ ∀ c ∈ arg, isBlank c = false) (cs : List Char) :
    words (cs ++ args.flatMap (' ' :: ·)) = words cs ++ args := by
  induction args generalizing cs with
  | nil => simp
  | cons arg args ih =>
      obtain ⟨hne, hblank⟩ := h arg List.mem_cons_self
      have hrest := ih (fun other hother => h other (List.mem_cons_of_mem arg hother)) arg
      rw [List.flatMap_cons, List.cons_append, words_append_blank (by decide), hrest,
        words_eq_singleton hne hblank]
      rfl

/-- Characters that are not white space, at least one. -/
structure IsWord (word : List Char) : Prop where
  ne_nil : word ≠ []
  not_blank : ∀ c ∈ word, isBlank c = false

/-- A text of words, each of them up to the white space behind it or the end. -/
inductive HasWords : List Char → List (List Char) → Prop
  | nil : HasWords [] []
  | blank {c : Char} {cs : List Char} {ws : List (List Char)} (hc : isBlank c = true)
      (rest : HasWords cs ws) : HasWords (c :: cs) ws
  | word {word cs : List Char} {ws : List (List Char)} (hword : IsWord word)
      (hend : ∀ c ∈ cs.head?, isBlank c = true) (rest : HasWords cs ws) :
      HasWords (word ++ cs) (word :: ws)

theorem words_word_append {word cs : List Char} (hword : IsWord word)
    (hend : ∀ c ∈ cs.head?, isBlank c = true) : words (word ++ cs) = word :: words cs := by
  have hsingle := words_eq_singleton hword.ne_nil hword.not_blank
  cases cs with
  | nil => rw [List.append_nil, hsingle, words_nil]
  | cons c cs =>
      have hc := hend c rfl
      rw [words_append_blank hc, words_cons_blank hc, hsingle]
      rfl

theorem hasWords_words (cs : List Char) : HasWords cs (words cs) := by
  induction h : cs.length using Nat.strong_induction_on generalizing cs with
  | _ n ih =>
      cases cs with
      | nil => exact .nil
      | cons c cs =>
          cases hc : isBlank c with
          | true =>
              rw [words_cons_blank hc]
              exact .blank hc (ih _ (by simp [← h]) cs rfl)
          | false =>
              -- the text is its first word and what stands behind it
              have hsplit := List.takeWhile_append_dropWhile (p := (!isBlank ·)) (l := c :: cs)
              have hword : IsWord ((c :: cs).takeWhile (!isBlank ·)) :=
                ⟨by simp [hc], fun d hd => by simpa using List.mem_takeWhile_imp hd⟩
              have hend : ∀ d ∈ ((c :: cs).dropWhile (!isBlank ·)).head?, isBlank d = true := by
                intro d hd
                have hnot := List.head?_dropWhile_not (!isBlank ·) (c :: cs)
                rw [Option.mem_def.mp hd] at hnot
                simpa using hnot
              have hshorter : ((c :: cs).dropWhile (!isBlank ·)).length < n := by
                rw [← h, List.dropWhile_cons_of_pos (by simp [hc])]
                exact Nat.lt_succ_of_le (List.dropWhile_sublist _).length_le
              have hrest := ih _ hshorter _ rfl
              rw [← hsplit, words_word_append hword hend]
              exact .word hword hend hrest

/-- Every text has the words that it is cut into, and no others. -/
theorem words_eq_iff {cs : List Char} {ws : List (List Char)} :
    words cs = ws ↔ HasWords cs ws := by
  refine ⟨fun h => h ▸ hasWords_words cs, fun h => ?_⟩
  induction h with
  | nil => exact words_nil
  | blank hc _ ih => rw [words_cons_blank hc, ih]
  | word hword hend _ ih => rw [words_word_append hword hend, ih]

theorem dropCarriageReturn_eq_self {line : List Char} (h : '\r' ∉ line) :
    dropCarriageReturn line = line :=
  if_neg fun hlast => h (List.mem_of_getLast? hlast)

/-- A carriage return at the end of a line is no part of its words. -/
theorem words_dropCarriageReturn (line : List Char) :
    words (dropCarriageReturn line) = words line := by
  unfold dropCarriageReturn
  split
  · rename_i hlast
    obtain ⟨front, rfl⟩ := List.getLast?_eq_some_iff.mp hlast
    rw [List.dropLast_concat, words_append_blank (by decide), words_nil, List.append_nil]
  · rfl

/-! ## Lines -/

section Lines

variable {β : Type} {f : List Char → List β}

/-- What is made of single lines, where carriage returns and an empty last line make no
difference. -/
theorem flatMap_endLines {pieces : List (List Char)} (hempty : f [] = [])
    (hreturn : ∀ piece ∈ pieces, f (dropCarriageReturn piece) = f piece) :
    (endLines pieces).flatMap f = pieces.flatMap f := by
  induction pieces using endLines.induct with
  | case1 => rfl
  | case2 last hlast =>
      rw [List.isEmpty_iff] at hlast
      simp [endLines, hlast, hempty]
  | case3 last hlast => simp [endLines, hlast]
  | case4 piece pieces hpieces ih =>
      have hpiece := hreturn piece List.mem_cons_self
      have hrest := ih fun other hother => hreturn other (List.mem_cons_of_mem _ hother)
      rw [endLines, List.flatMap_cons, List.flatMap_cons, hpiece, hrest]
      exact hpieces

/-- What is made of the lines of a text that was joined is made of what was joined. -/
theorem flatMap_lines_intercalate {pieces : List (List Char)} (hempty : f [] = [])
    (hline : ∀ piece ∈ pieces, '\n' ∉ piece)
    (hreturn : ∀ piece ∈ pieces, f (dropCarriageReturn piece) = f piece) :
    (lines (['\n'].intercalate pieces)).flatMap f = pieces.flatMap f := by
  by_cases hpieces : pieces = []
  · subst hpieces
    rfl
  · rw [lines, splitBy_intercalate hline hpieces]
    exact flatMap_endLines hempty hreturn

end Lines

end TtpConformance.Text
