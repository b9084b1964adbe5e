import Mathlib.Data.List.Forall2
import TtpConformance.Proofs.Status.Columns

/-!
# The columns of arbitrary lines

A line of a status file may hold anything.  Split at spaces, and at nothing else, it is a
row of tokens with spaces before each, and there is one way only to split it.  Which of
the tokens are columns, and which triples the line therefore shows, is then said by
position: a triple stands wherever three tokens in a row are columns.  Triples may overlap.

Here nothing is known of the line, in contrast to the lines of `Proofs.Status.Columns`,
which are put together from given cells.

## Main definitions

* `SplitAtSpaces` — the tokens of a line.
* `ColumnAt`, `TripleAt` — a column and a triple, by position.
* `RunPositions` — where three numbers in a row start.
* `scanTriples` — one pass over columns that remembers the current run.

## Main statements

* `spacedWords_eq_iff` — the tokens of a line are the words that are read from it.
* `getElem?_columns_eq_some_iff` — the columns of a line.
* `exists_runPositions` — runs of three, by position.
* `sequenceWindows_positions` — the triples of a line, and the row that is made of it.
-/

namespace TtpConformance

open SpacedWord

/-! ## Tokens -/

/-- The tokens of a line: words without a space in them, with at least one space before all
but the first, and perhaps more spaces at the end. -/
structure SplitAtSpaces (line : List Char) (tokens : List SpacedWord) : Prop where
  line_eq : ∃ trailing, line = joined tokens ++ List.replicate trailing ' '
  words : ∀ w ∈ tokens, w.word ≠ [] ∧ ' ' ∉ w.word
  gaps : ∀ w ∈ tokens.tail, 0 < w.spaces

theorem spacedWordsFrom_cons_of_ne {n : Nat} {c : Char} {cs : List Char} (hc : c ≠ ' ') :
    spacedWordsFrom n (c :: cs) =
      ⟨n, c :: cs.takeWhile (· != ' ')⟩ :: spacedWordsFrom 0 (cs.dropWhile (· != ' ')) := by
  rw [spacedWordsFrom]
  exact hc

/-- The spaces that came before are spaces before the first word. -/
theorem le_spaces_of_mem_head? {n : Nat} {cs : List Char} {w : SpacedWord}
    (h : w ∈ (spacedWordsFrom n cs).head?) : n ≤ w.spaces := by
  induction n, cs using spacedWordsFrom.induct with
  | case1 n => simp [spacedWordsFrom] at h
  | case2 n rest ih =>
      rw [spacedWordsFrom] at h
      exact Nat.le_of_succ_le (ih h)
  | case3 n c rest hc ih =>
      rw [spacedWordsFrom_cons_of_ne hc, List.head?_cons, Option.mem_some_iff] at h
      subst h
      exact Nat.le_refl n

/-- What is left behind a word is nothing, or starts with a space. -/
theorem dropWhile_ne_space_cases (cs : List Char) :
    cs.dropWhile (· != ' ') = [] ∨ ∃ rest, cs.dropWhile (· != ' ') = ' ' :: rest := by
  cases hdrop : cs.dropWhile (· != ' ') with
  | nil => exact .inl rfl
  | cons c rest =>
      have hc : (c != ' ') = false := by
        have hhead := List.head?_dropWhile_not (· != ' ') cs
        simpa [hdrop] using hhead
      have hspace : c = ' ' := by simpa using hc
      exact .inr ⟨rest, by rw [hspace]⟩

/-- So a word that is read there has a space before it. -/
theorem spaces_pos_of_mem_head? {cs : List Char} {w : SpacedWord}
    (h : w ∈ (spacedWordsFrom 0 (cs.dropWhile (· != ' '))).head?) : 0 < w.spaces := by
  rcases dropWhile_ne_space_cases cs with hnil | ⟨rest, hspace⟩
  · simp [hnil, spacedWordsFrom] at h
  · rw [hspace, spacedWordsFrom] at h
    exact le_spaces_of_mem_head? h

/-- The words that are read from a line, behind some spaces, split it. -/
theorem splitAtSpaces_spacedWordsFrom (n : Nat) (cs : List Char) :
    SplitAtSpaces (List.replicate n ' ' ++ cs) (spacedWordsFrom n cs) := by
  induction n, cs using spacedWordsFrom.induct with
  | case1 n => exact ⟨⟨n, by simp [spacedWordsFrom, joined]⟩, by simp [spacedWordsFrom],
      by simp [spacedWordsFrom]⟩
  | case2 n rest ih =>
      have hspaces : List.replicate n ' ' ++ ' ' :: rest = List.replicate (n + 1) ' ' ++ rest := by
        simp [List.replicate_succ']
      rw [hspaces, spacedWordsFrom]
      exact ih
  | case3 n c rest hc ih =>
      obtain ⟨⟨trailing, hline⟩, hwords, hgaps⟩ := ih
      rw [spacedWordsFrom_cons_of_ne hc]
      refine ⟨⟨trailing, ?_⟩, ?_, ?_⟩
      · rw [joined_cons, List.append_assoc, List.append_assoc, ← hline]
        simp
      · have hword : ' ' ∉ c :: rest.takeWhile (· != ' ') := by
          intro hmem
          rcases List.mem_cons.mp hmem with heq | hmem
          · exact hc heq.symm
          · have hall := List.all_eq_true.mp (List.all_takeWhile (p := (· != ' ')) (l := rest))
            simpa using hall ' ' hmem
        intro w hw
        rcases List.mem_cons.mp hw with rfl | hw
        · exact ⟨List.cons_ne_nil _ _, hword⟩
        · exact hwords w hw
      · intro w hw
        rw [List.tail_cons] at hw
        rcases hfound : spacedWordsFrom 0 (rest.dropWhile (· != ' ')) with _ | ⟨first, others⟩
        · simp [hfound] at hw
        rw [hfound] at hw hgaps
        rcases List.mem_cons.mp hw with rfl | hw
        · exact spaces_pos_of_mem_head? (by rw [hfound]; rfl)
        · exact hgaps w hw

/-- A line is split in one way only. -/
theorem spacedWords_of_splitAtSpaces {line : List Char} {tokens : List SpacedWord}
    (h : SplitAtSpaces line tokens) : spacedWords line = tokens := by
  obtain ⟨⟨trailing, rfl⟩, hwords, hgaps⟩ := h
  rw [spacedWords]
  induction tokens with
  | nil =>
      have hnothing := spacedWordsFrom_spaces trailing 0 []
      simpa [joined, spacedWordsFrom] using hnothing
  | cons w tokens ih =>
      obtain ⟨hne, hspace⟩ := hwords w List.mem_cons_self
      have hrest := ih (fun v hv => hwords v (List.mem_cons_of_mem w hv))
        fun v hv => hgaps v (List.mem_of_mem_tail hv)
      have hbehind : joined tokens ++ List.replicate trailing ' ' = [] ∨
          ∃ rest, joined tokens ++ List.replicate trailing ' ' = ' ' :: rest := by
        cases tokens with
        | nil => cases trailing <;> simp [joined, List.replicate_succ]
        | cons v tokens =>
            have hgap : 0 < v.spaces := hgaps v List.mem_cons_self
            obtain ⟨n, hn⟩ := Nat.exists_eq_add_one_of_ne_zero (Nat.ne_of_gt hgap)
            simp [joined_cons, hn, List.replicate_succ]
      rw [joined_cons, List.append_assoc, List.append_assoc, spacedWordsFrom_spaces,
        Nat.zero_add, spacedWordsFrom_word _ hne hspace hbehind, hrest]

/-- The tokens of a line are the words that are read from it. -/
theorem spacedWords_eq_iff {line : List Char} {tokens : List SpacedWord} :
    spacedWords line = tokens ↔ SplitAtSpaces line tokens := by
  constructor
  · rintro rfl
    exact splitAtSpaces_spacedWordsFrom 0 line
  · exact spacedWords_of_splitAtSpaces

/-- There are no more tokens in a line than characters. -/
theorem SplitAtSpaces.length_le {line : List Char} {tokens : List SpacedWord}
    (h : SplitAtSpaces line tokens) : tokens.length ≤ line.length := by
  obtain ⟨⟨trailing, rfl⟩, hwords, -⟩ := h
  have hjoined : tokens.length ≤ (joined tokens).length := by
    induction tokens with
    | nil => simp
    | cons w tokens ih =>
        have hword : 0 < w.word.length := List.length_pos_iff.mpr (hwords w List.mem_cons_self).1
        have hrest := ih fun v hv => hwords v (List.mem_cons_of_mem w hv)
        simp only [joined_cons, List.length_append, List.length_cons]
        omega
  rw [List.length_append]
  omega

/-! ## Columns -/

/-- The token at a position is a column with a number: digits only, which write that number
and, with their padding, are at least seven.  Two of the spaces in front of a token are no
padding, unless it is the first one. -/
def ColumnAt (tokens : List SpacedWord) (i : Nat) (n : UInt64) : Prop :=
  ∃ (w : SpacedWord) (padding : Nat), tokens[i]? = some w ∧
    w.spaces = padding + (if i = 0 then 0 else 2) ∧ 7 ≤ padding + w.word.length ∧
    (∀ c ∈ w.word, '0' ≤ c ∧ c ≤ '9') ∧ Text.decimalValue w.word = n.toNat

/-- Three tokens in a row, from a position on, are the columns of a triple. -/
structure TripleAt (tokens : List SpacedWord) (i : Nat) (t : SeqTriple) : Prop where
  own : ColumnAt tokens i t.own
  peerTx : ColumnAt tokens (i + 1) t.peerTx
  peerRx : ColumnAt tokens (i + 2) t.peerRx

theorem columnValue?_eq_some_iff {padding : Nat} {word : List Char} (hne : word ≠ []) (n : UInt64) :
    columnValue? padding word = some n ↔
      7 ≤ padding + word.length ∧ (∀ c ∈ word, '0' ≤ c ∧ c ≤ '9') ∧
        Text.decimalValue word = n.toNat := by
  have hall : word.all Text.isDigit = true ↔ ∀ c ∈ word, '0' ≤ c ∧ c ≤ '9' := by
    simp [Text.isDigit_iff]
  have hwidth : columnWidth = 7 := rfl
  rw [columnValue?, hwidth, ← hall]
  by_cases hcolumn : 7 ≤ padding + word.length ∧ word.all Text.isDigit = true
  · have hread : (Text.readUInt64 word).toOption = some n ↔ Text.readUInt64 word = .ok n := by
      cases Text.readUInt64 word <;> simp [Except.toOption]
    rw [if_pos hcolumn, hread, Text.readUInt64_eq_ok_iff hne (List.all_eq_true.mp hcolumn.2)]
    simp [hcolumn]
  · rw [if_neg hcolumn]
    grind

theorem column?_eq_some_iff {w : SpacedWord} (isFirst : Bool) (n : UInt64) :
    w.column? isFirst = some n ↔
      ∃ padding, w.spaces = padding + (if isFirst then 0 else 2) ∧
        columnValue? padding w.word = some n := by
  cases isFirst with
  | true => simp [SpacedWord.column?]
  | false =>
      have hgap : columnGap = 2 := rfl
      simp only [SpacedWord.column?, Bool.false_eq_true, if_false, hgap]
      by_cases hspaces : 2 ≤ w.spaces
      · rw [if_pos hspaces]
        constructor
        · exact fun h => ⟨w.spaces - 2, by omega, h⟩
        · rintro ⟨padding, hpadding, h⟩
          rwa [hpadding, Nat.add_sub_cancel]
      · rw [if_neg hspaces]
        constructor
        · intro h
          cases h
        · rintro ⟨padding, hpadding, -⟩
          omega

theorem getElem?_columns (line : List Char) (i : Nat) :
    (columns line)[i]? = (spacedWords line)[i]?.map (·.column? (i == 0)) := by
  unfold columns
  cases spacedWords line with
  | nil => simp
  | cons first rest => cases i <;> simp

/-- The columns of a line, by position. -/
theorem getElem?_columns_eq_some_iff (line : List Char) (i : Nat) (n : UInt64) :
    (columns line)[i]? = some (some n) ↔ ColumnAt (spacedWords line) i n := by
  have hwords := (splitAtSpaces_spacedWordsFrom 0 line).words
  rw [getElem?_columns]
  unfold ColumnAt
  cases htoken : (spacedWords line)[i]? with
  | none => simp
  | some w =>
      have hne : w.word ≠ [] := (hwords w (List.mem_of_getElem? htoken)).1
      simp only [Option.map_some, Option.some.injEq, column?_eq_some_iff,
        columnValue?_eq_some_iff hne, beq_iff_eq, exists_and_left, exists_eq_left']

/-! ## Triples -/

/-- Three numbers in a row, from a position on. -/
def RunAt (values : List (Option UInt64)) (i : Nat) (t : SeqTriple) : Prop :=
  values[i]? = some (some t.own) ∧ values[i + 1]? = some (some t.peerTx) ∧
    values[i + 2]? = some (some t.peerRx)

/-- What is in front of a list only shifts the positions in it. -/
theorem runAt_cons_succ_iff {value : Option UInt64} {values : List (Option UInt64)} {i : Nat}
    {t : SeqTriple} : RunAt (value :: values) (i + 1) t ↔ RunAt values i t := by
  simp [RunAt]

/-- The positions of the triples of a list, from left to right. -/
structure RunPositions (values : List (Option UInt64)) (positions : List Nat) : Prop where
  sorted : positions.Pairwise (· < ·)
  mem_iff : ∀ i, i ∈ positions ↔ ∃ t, RunAt values i t
  runs : List.Forall₂ (RunAt values) positions (tripleRuns values)

/-- Behind the first value, a list has the positions of what follows, shifted by one. -/
theorem RunPositions.shift {values : List (Option UInt64)} {positions : List Nat}
    (h : RunPositions values positions) (value : Option UInt64) :
    (positions.map (· + 1)).Pairwise (· < ·) ∧
      (∀ i, i + 1 ∈ positions.map (· + 1) ↔ ∃ t, RunAt (value :: values) (i + 1) t) ∧
      List.Forall₂ (RunAt (value :: values)) (positions.map (· + 1)) (tripleRuns values) := by
  refine ⟨?_, fun i => ?_, ?_⟩
  · rw [List.pairwise_map]
    exact h.sorted.imp (Nat.add_lt_add_right · 1)
  · simp [runAt_cons_succ_iff, h.mem_iff i]
  · rw [List.forall₂_map_left_iff]
    exact h.runs.imp fun _ _ => runAt_cons_succ_iff.mpr

/-- Three numbers in front are one triple more. -/
theorem RunPositions.cons_run {a b c : UInt64} {values : List (Option UInt64)}
    {positions : List Nat} (h : RunPositions (some b :: some c :: values) positions) :
    RunPositions (some a :: some b :: some c :: values) (0 :: positions.map (· + 1)) := by
  obtain ⟨hsorted, hmem, hruns⟩ := h.shift (some a)
  have hfirst : RunAt (some a :: some b :: some c :: values) 0 ⟨a, b, c⟩ := ⟨rfl, rfl, rfl⟩
  refine ⟨?_, fun i => ?_, ?_⟩
  · rw [List.pairwise_cons]
    exact ⟨by simp, hsorted⟩
  · cases i with
    | zero => exact iff_of_true List.mem_cons_self ⟨_, hfirst⟩
    | succ i => rw [List.mem_cons, ← hmem i]; simp
  · rw [tripleRuns]
    exact .cons hfirst hruns

/-- A value in front that starts no triple only shifts the others. -/
theorem RunPositions.cons_other {value : Option UInt64} {values : List (Option UInt64)}
    {positions : List Nat} (h : RunPositions values positions)
    (hother : ∀ a b c rest, value = some a → values = some b :: some c :: rest → False) :
    RunPositions (value :: values) (positions.map (· + 1)) := by
  obtain ⟨hsorted, hmem, hruns⟩ := h.shift value
  have hfirst : ¬ ∃ t, RunAt (value :: values) 0 t := by
    rintro ⟨t, hown, htx, hrx⟩
    have hvalue : value = some t.own := by simpa using hown
    cases values with
    | nil => simp at htx
    | cons b values =>
        cases values with
        | nil => simp at hrx
        | cons c rest =>
            have hb : b = some t.peerTx := by simpa using htx
            have hc : c = some t.peerRx := by simpa using hrx
            exact hother t.own t.peerTx t.peerRx rest hvalue (by rw [hb, hc])
  refine ⟨hsorted, fun i => ?_, ?_⟩
  · cases i with
    | zero => exact iff_of_false (by simp) hfirst
    | succ i => exact hmem i
  · rw [tripleRuns]
    · exact hruns
    · exact hother

/-- The triples of a list, each at its position, from left to right. -/
theorem exists_runPositions (values : List (Option UInt64)) :
    ∃ positions, RunPositions values positions := by
  induction values using tripleRuns.induct with
  | case1 a b c rest ih =>
      obtain ⟨positions, h⟩ := ih
      exact ⟨_, h.cons_run⟩
  | case2 value rest hother ih =>
      obtain ⟨positions, h⟩ := ih
      exact ⟨_, h.cons_other hother⟩
  | case3 => exact ⟨[], .nil, by simp [RunAt], .nil⟩

/-- One pass over a list that remembers the current run only, newest number first: a value that
is no number ends the run, and each number from the third on ends a triple. -/
def scanTriples (run : List UInt64) : List (Option UInt64) → List SeqTriple
  | [] => []
  | none :: rest => scanTriples [] rest
  | some c :: rest =>
    match run with
    | b :: a :: _ => ⟨a, b, c⟩ :: scanTriples (c :: run) rest
    | _ => scanTriples (c :: run) rest

/-- The pass finds the triples of the last two numbers of its run and the rest of the list. -/
theorem scanTriples_eq_tripleRuns (run : List UInt64) (values : List (Option UInt64)) :
    scanTriples run values = tripleRuns ((run.take 2).reverse.map some ++ values) := by
  induction values generalizing run with
  | nil =>
      match run with
      | [] => rfl
      | [_] => rfl
      | _ :: _ :: _ => rfl
  | cons value rest ih =>
      cases value with
      | none =>
          have hrest : scanTriples [] rest = tripleRuns rest := ih []
          match run with
          | [] => simp [scanTriples, tripleRuns, hrest]
          | [_] => simp [scanTriples, tripleRuns, hrest]
          | _ :: _ :: _ => simp [scanTriples, tripleRuns, hrest]
      | some c =>
          match run with
          | [] => simpa [scanTriples] using ih [c]
          | [b] => simpa [scanTriples] using ih [c, b]
          | b :: a :: run => simpa [scanTriples, tripleRuns] using ih (c :: b :: a :: run)

/-! ## Lines and tables -/

/-- The triples of a line are those of three columns in a row, from left to right. -/
theorem sequenceWindows_tripleAt (line : List Char) :
    ∃ positions : List Nat, positions.Pairwise (· < ·) ∧
      (∀ i, i ∈ positions ↔ ∃ t, TripleAt (spacedWords line) i t) ∧
      List.Forall₂ (TripleAt (spacedWords line)) positions (sequenceWindows line) := by
  have hrun : ∀ i t, RunAt (columns line) i t ↔ TripleAt (spacedWords line) i t := by
    intro i t
    unfold RunAt
    simp only [getElem?_columns_eq_some_iff]
    constructor
    · rintro ⟨hown, htx, hrx⟩
      exact ⟨hown, htx, hrx⟩
    · rintro ⟨hown, htx, hrx⟩
      exact ⟨hown, htx, hrx⟩
  obtain ⟨positions, hsorted, hmem, hruns⟩ := exists_runPositions (columns line)
  refine ⟨positions, hsorted, fun i => ?_, hruns.imp fun i t => (hrun i t).mp⟩
  simp only [hmem, hrun]

/-- A row of a text shows the triples of its line, and is the last one of them. -/
structure TagRecord.IsOfLine (line : List Char) (r : TagRecord) : Prop where
  windows : r.windows = sequenceWindows line
  last : r.triple ∈ (sequenceWindows line).getLast?

/-- The rows of a text come from its lines with triples, in order. -/
theorem TagTable.forall₂_records_parse (text : String) :
    List.Forall₂ TagRecord.IsOfLine
      ((Text.lines text.toList).filter fun line => sequenceWindows line ≠ [])
      (TagTable.parse text).records := by
  rw [TagTable.records_parse]
  induction Text.lines text.toList with
  | nil => exact .nil
  | cons line lines ih =>
      rw [List.flatMap_cons]
      cases hlast : (sequenceWindows line).getLast? with
      | none =>
          have hnil : sequenceWindows line = [] := List.getLast?_eq_none_iff.mp hlast
          rw [List.filter_cons_of_neg (by simp [hnil])]
          simpa [TagTable.parseLine, hlast] using ih
      | some triple =>
          have hne : sequenceWindows line ≠ [] := by
            intro hnil
            simp [hnil] at hlast
          have hrow : TagRecord.IsOfLine line
              ⟨triple, Status.findAddress? line, showsOpen line, sequenceWindows line⟩ :=
            ⟨rfl, hlast⟩
          rw [List.filter_cons_of_pos (by simp [hne])]
          simpa [TagTable.parseLine, hlast] using List.Forall₂.cons hrow ih

/--
The triples of a line are its column runs.  Every line has one splitting into tokens at its
spaces, of at most as many tokens as it has characters.  A triple is read wherever three
tokens in a row are columns, with their numbers, from left to right and nowhere else, and one
pass over the columns finds them.  A text has a row for each line with triples, in order, and the
row carries the last triple of its line.
-/
theorem sequenceWindows_positions :
    (∀ line : List Char, ∃ tokens : List SpacedWord,
      (∀ tokens', SplitAtSpaces line tokens' ↔ tokens' = tokens) ∧
      tokens.length ≤ line.length ∧
      sequenceWindows line = scanTriples [] (columns line) ∧
      ∃ positions : List Nat, positions.Pairwise (· < ·) ∧
        (∀ i, i ∈ positions ↔ ∃ t, TripleAt tokens i t) ∧
        List.Forall₂ (TripleAt tokens) positions (sequenceWindows line)) ∧
    ∀ text : String, List.Forall₂ TagRecord.IsOfLine
      ((Text.lines text.toList).filter fun line => sequenceWindows line ≠ [])
      (TagTable.parse text).records := by
  refine ⟨fun line => ⟨spacedWords line, fun tokens' => ?_, ?_, ?_, sequenceWindows_tripleAt line⟩,
    TagTable.forall₂_records_parse⟩
  · rw [← spacedWords_eq_iff, eq_comm]
  · exact (spacedWords_eq_iff.mp rfl).length_le
  · exact (scanTriples_eq_tripleRuns [] (columns line)).symm

end TtpConformance
