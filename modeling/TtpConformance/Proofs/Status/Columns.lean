import TtpConformance.Proofs.Text.Numeral
import TtpConformance.Proofs.Text.Words
import TtpConformance.Status.Tags

/-!
# Cells and columns

A line of a table is put together from words with spaces before each.  Taken apart at
spaces it gives these words and spaces back, and taken apart at white space it gives the
words.  So what a reader sees in such a line, its columns and its words, can be said
cell by cell.

A number that is right-aligned in a column is a cell whose spaces and digits fill the
least width of a column, and it is read from such a cell.

## Main definitions

* `SpacedWord.joined` — the line of given cells.
* `SpacedWord.IsLine` — cells that can be told apart in their line.
* `columnText`, `columnCell` — a number in a column, as text and as a cell.

## Main statements

* `spacedWords_joined`, `words_joined` — a line gives its cells and their words back.
* `columnCell_column?` — a number in a column is read from it.
* `tripleRuns_append_of_none` — what is no column leaves no trace in front of columns.
* `TagTable.records_parse`, `TagTable.openAddresses_parse` — a table, line by line.
-/

namespace TtpConformance

/-! ## Lines of cells -/

namespace SpacedWord

/-- A cell as it stands in its line. -/
def text (w : SpacedWord) : List Char := List.replicate w.spaces ' ' ++ w.word

/-- The line of given cells. -/
def joined (cells : List SpacedWord) : List Char := cells.flatMap text

/-- A word without white space in it. -/
def IsWord (w : SpacedWord) : Prop := w.word ≠ [] ∧ ∀ c ∈ w.word, Text.isBlank c = false

/-- Cells that can be told apart in their line: words, with a space before all but the
first of them. -/
structure IsLine (cells : List SpacedWord) : Prop where
  words : ∀ w ∈ cells, w.IsWord
  gaps : ∀ w ∈ cells.tail, 0 < w.spaces

theorem joined_cons (w : SpacedWord) (cells : List SpacedWord) :
    joined (w :: cells) = List.replicate w.spaces ' ' ++ (w.word ++ joined cells) := by
  simp [joined, text]

theorem joined_append (cells cells' : List SpacedWord) :
    joined (cells ++ cells') = joined cells ++ joined cells' := List.flatMap_append

theorem isWord_of_all {word : List Char} (spaces : Nat) (hne : word ≠ [])
    (hall : word.all (!Text.isBlank ·) = true) : (⟨spaces, word⟩ : SpacedWord).IsWord :=
  ⟨hne, fun c hc => by simpa using List.all_eq_true.mp hall c hc⟩

theorem IsWord.space_not_mem {w : SpacedWord} (h : w.IsWord) : ' ' ∉ w.word := by
  intro hmem
  have hblank := h.2 ' ' hmem
  revert hblank
  decide

theorem IsLine.tail {w : SpacedWord} {cells : List SpacedWord} (h : IsLine (w :: cells)) :
    IsLine cells where
  words v hv := h.words v (List.mem_cons_of_mem w hv)
  gaps v hv := h.gaps v (List.mem_of_mem_tail hv)

/-- Behind a word of a line, there is a space or nothing. -/
theorem IsLine.joined_tail_cases {w : SpacedWord} {cells : List SpacedWord}
    (h : IsLine (w :: cells)) :
    cells = [] ∨ ∃ rest, joined cells = ' ' :: rest := by
  cases cells with
  | nil => exact .inl rfl
  | cons v cells =>
      have hgap : 0 < v.spaces := h.gaps v List.mem_cons_self
      obtain ⟨n, hn⟩ := Nat.exists_eq_add_one_of_ne_zero (Nat.ne_of_gt hgap)
      rw [joined_cons, hn, List.replicate_succ]
      exact .inr ⟨_, rfl⟩

end SpacedWord

open SpacedWord

theorem spacedWordsFrom_spaces (n spaces : Nat) (cs : List Char) :
    spacedWordsFrom spaces (List.replicate n ' ' ++ cs) = spacedWordsFrom (spaces + n) cs := by
  induction n generalizing spaces with
  | zero => rfl
  | succ n ih =>
      rw [List.replicate_succ, List.cons_append, spacedWordsFrom, ih]
      congr 1
      omega

theorem spacedWordsFrom_word {word cs : List Char} (spaces : Nat) (hne : word ≠ [])
    (hword : ' ' ∉ word) (hcs : cs = [] ∨ ∃ rest, cs = ' ' :: rest) :
    spacedWordsFrom spaces (word ++ cs) = ⟨spaces, word⟩ :: spacedWordsFrom 0 cs := by
  cases word with
  | nil => exact absurd rfl hne
  | cons c word =>
      obtain ⟨hc, hrest⟩ := not_or.mp (mt List.mem_cons.mpr hword)
      have hpass : ∀ d ∈ word, (d != ' ') = true := by
        intro d hd
        rw [bne_iff_ne]
        rintro rfl
        exact hrest hd
      have htake : (word ++ cs).takeWhile (· != ' ') = word := by
        rw [List.takeWhile_append_of_pos hpass]
        rcases hcs with rfl | ⟨rest, rfl⟩ <;> simp
      have hdrop : (word ++ cs).dropWhile (· != ' ') = cs := by
        rw [List.dropWhile_append_of_pos hpass]
        rcases hcs with rfl | ⟨rest, rfl⟩ <;> simp
      rw [List.cons_append, spacedWordsFrom, htake, hdrop]
      exact fun heq => hc heq.symm

/-- A line taken apart at spaces gives its cells back. -/
theorem spacedWords_joined {cells : List SpacedWord} (h : IsLine cells) :
    spacedWords (joined cells) = cells := by
  rw [spacedWords]
  induction cells with
  | nil => simp [joined, spacedWordsFrom]
  | cons w cells ih =>
      have hword : w.IsWord := h.words w List.mem_cons_self
      have hbehind : joined cells = [] ∨ ∃ rest, joined cells = ' ' :: rest := by
        rcases h.joined_tail_cases with rfl | hspace
        · exact .inl rfl
        · exact .inr hspace
      rw [joined_cons, spacedWordsFrom_spaces, Nat.zero_add,
        spacedWordsFrom_word _ hword.1 hword.space_not_mem hbehind, ih h.tail]

/-- The words of a line are those of its cells. -/
theorem words_joined {cells : List SpacedWord} (h : IsLine cells) :
    Text.words (joined cells) = cells.map (·.word) := by
  induction cells with
  | nil => rfl
  | cons w cells ih =>
      have hword : w.IsWord := h.words w List.mem_cons_self
      have hsingle := Text.words_eq_singleton hword.1 hword.2
      rw [joined_cons, Text.words_spaces_append, List.map_cons, ← ih h.tail]
      rcases h.joined_tail_cases with rfl | ⟨rest, hrest⟩
      · simpa [joined, Text.words_nil] using hsingle
      · rw [hrest, Text.words_append_blank (by decide), Text.words_cons_blank (by decide), hsingle]
        rfl

/-- No white space but the space itself stands in a line of cells. -/
theorem blank_not_mem_joined {cells : List SpacedWord} (h : IsLine cells) {c : Char}
    (hblank : Text.isBlank c = true) (hspace : c ≠ ' ') : c ∉ joined cells := by
  intro hmem
  obtain ⟨w, hw, hc⟩ := List.mem_flatMap.mp hmem
  rcases List.mem_append.mp hc with hc | hc
  · exact hspace (List.eq_of_mem_replicate hc)
  · exact Bool.false_ne_true (((h.words w hw).2 c hc).symm.trans hblank)

theorem columns_joined {w : SpacedWord} {cells : List SpacedWord} (h : IsLine (w :: cells)) :
    columns (joined (w :: cells)) = w.column? true :: cells.map (·.column? false) := by
  rw [columns, spacedWords_joined h]

/-! ## Numbers in columns -/

/-- A number in its column: right-aligned, and as wide as it has to be. -/
def columnText (n : UInt64) : List Char := (Text.digits n.toNat).leftpad columnWidth ' '

/-- The cell of a number that stands in its column behind a number of spaces. -/
def columnCell (before : Nat) (n : UInt64) : SpacedWord :=
  ⟨before + (columnWidth - (Text.digits n.toNat).length), Text.digits n.toNat⟩

theorem columnCell_text (before : Nat) (n : UInt64) :
    (columnCell before n).text = List.replicate before ' ' ++ columnText n := by
  rw [SpacedWord.text, columnCell, ← List.replicate_append_replicate, List.append_assoc]
  rfl

theorem isWord_columnCell (before : Nat) (n : UInt64) : (columnCell before n).IsWord := by
  refine ⟨Text.digits_ne_nil _, fun c hc => ?_⟩
  have hdigit : Text.isDigit c = true := Text.isDigit_of_mem_digits hc
  exact Text.isBlank_eq_false_of_isHexDigit (Text.isHexDigit_of_isDigit hdigit)

theorem columnValue?_digits {padding : Nat} {n : UInt64}
    (h : columnWidth ≤ padding + (Text.digits n.toNat).length) :
    columnValue? padding (Text.digits n.toNat) = some n := by
  have hdigits : (Text.digits n.toNat).all Text.isDigit = true :=
    List.all_eq_true.mpr fun _ hc => Text.isDigit_of_mem_digits hc
  rw [columnValue?, if_pos ⟨h, hdigits⟩, Text.readUInt64_digits]
  rfl

/-- A number in its column is read from it, in front of a line or behind the gap. -/
theorem columnCell_column? {before : Nat} {isFirst : Bool} (n : UInt64)
    (h : isFirst = false → columnGap ≤ before) :
    (columnCell before n).column? isFirst = some n := by
  cases isFirst with
  | true =>
      have hwidth : columnWidth ≤ before + (columnWidth - (Text.digits n.toNat).length) +
          (Text.digits n.toNat).length := by omega
      exact columnValue?_digits hwidth
  | false =>
      have hgap : columnGap ≤ before := h rfl
      have hspaces : columnGap ≤ (columnCell before n).spaces := by
        simp only [columnCell]
        omega
      have hwidth : columnWidth ≤ (columnCell before n).spaces - columnGap +
          (Text.digits n.toNat).length := by
        simp only [columnCell]
        omega
      rw [SpacedWord.column?, if_neg Bool.false_ne_true, if_pos hspaces]
      exact columnValue?_digits hwidth

/-- A word that is not of digits alone is no column. -/
theorem column?_eq_none {w : SpacedWord} {c : Char} (hmem : c ∈ w.word)
    (hc : Text.isDigit c = false) (isFirst : Bool) : w.column? isFirst = none := by
  have hall : ¬ w.word.all Text.isDigit = true := fun h => by
    simp [List.all_eq_true.mp h c hmem] at hc
  have hvalue : ∀ padding, columnValue? padding w.word = none := fun padding =>
    if_neg fun h => hall h.2
  cases isFirst <;> simp [SpacedWord.column?, hvalue]

/-! ## Runs of columns -/

/-- There are no triples without three adjacent columns. -/
theorem tripleRuns_eq_nil_iff {values : List (Option UInt64)} :
    tripleRuns values = [] ↔ ∀ a b c, ¬ [some a, some b, some c] <:+: values := by
  induction values using tripleRuns.induct with
  | case1 a b c rest ih =>
      rw [tripleRuns]
      constructor
      · intro h
        exact absurd h (List.cons_ne_nil _ _)
      · intro h
        exact absurd (List.prefix_append [some a, some b, some c] rest).isInfix (h a b c)
  | case2 value rest hrun ih =>
      rw [tripleRuns, ih]
      · constructor
        · intro h a b c hinside
          rcases List.infix_cons_iff.mp hinside with hprefix | hrest
          · obtain ⟨behind, hbehind⟩ := hprefix
            injection hbehind with hvalue hrest
            exact hrun a b c behind hvalue.symm hrest.symm
          · exact h a b c hrest
        · intro h a b c hinside
          exact h a b c (hinside.trans (List.suffix_cons value rest).isInfix)
      · exact hrun
  | case3 => simp [tripleRuns]

/-- Words that are no columns leave no trace in front of columns. -/
theorem tripleRuns_append_of_none {values values' : List (Option UInt64)}
    (h : ∀ value ∈ values, value = none) :
    tripleRuns (values ++ values') = tripleRuns values' := by
  induction values with
  | nil => rfl
  | cons value values ih =>
      have hvalue : value = none := h value List.mem_cons_self
      rw [List.cons_append, hvalue, tripleRuns]
      · exact ih fun other hother => h other (List.mem_cons_of_mem _ hother)
      · simp

/-! ## Tables -/

namespace TagTable

/-- An empty line says nothing. -/
theorem parseLine_nil : parseLine [] = {} := by
  have hcolumns : columns [] = [] := by rw [columns, spacedWords, spacedWordsFrom]
  rw [parseLine, sequenceWindows, hcolumns]
  rfl

/-- The rows of a text are those of its lines, in order. -/
theorem records_parse (text : String) :
    (parse text).records =
      (Text.lines text.toList).flatMap fun line => (parseLine line).records := by
  rw [parse]
  induction Text.lines text.toList with
  | nil => rfl
  | cons line lines ih => simp [append, ih]

/-- The open addresses of a text are those of its lines, in order. -/
theorem openAddresses_parse (text : String) :
    (parse text).openAddresses =
      (Text.lines text.toList).flatMap fun line => (parseLine line).openAddresses := by
  rw [parse]
  induction Text.lines text.toList with
  | nil => rfl
  | cons line lines ih => simp [append, ih]

end TagTable

end TtpConformance
