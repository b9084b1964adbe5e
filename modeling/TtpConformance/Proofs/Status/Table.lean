import Mathlib.Data.List.Basic
import TtpConformance.Proofs.Status.Columns

/-!
# The tag table is read back

The module prints its connections for people.  A row has some cells in front, the three
sequence numbers in their columns, the peer's address, and the marker of an open
connection in front of the numbers or behind the address.  Headers and remarks stand
between the rows.  Nothing marks where the columns begin; they are told from other cells
by the spaces in front of them alone.

Here such tables are written down as data, with what the cells in front must not look
like.  Reading the text of one gives exactly its rows back.

## Main definitions

* `ShownAddress`, `OpenWord`, `TableRow` — a row as data, and its `text`.
* `Remark` — a line that is no row.
* `TableLine` — rows and remarks; `TableLine.tableText` is the text of a table.

## Main statements

* `TagTable.parseLine_row`, `TagTable.parseLine_remark` — what single lines are read as.
* `TagTable.parse_tableText` — a table is read back.
-/

namespace TtpConformance

open SpacedWord

/-! ## Rows -/

/-- Three or six groups of two hexadecimal digits of either case. -/
structure ShownAddress where
  groups : List (List Char)
  count : groups.length = 3 ∨ groups.length = 6
  octets : ∀ group ∈ groups, Status.isOctetGroup group = true

/-- The groups with colons between them. -/
def ShownAddress.text (a : ShownAddress) : List Char := [':'].intercalate a.groups

/-- The words that mark an open connection. -/
inductive OpenWord where
  | short
  | long
  deriving DecidableEq, Repr

/-- `OP` or `OPEN`. -/
def OpenWord.text : OpenWord → List Char
  | .short => ['O', 'P']
  | .long => ['O', 'P', 'E', 'N']

/-- The part of a word that may be an address: all but what no address has at its ends. -/
def addressPart (word : List Char) : List Char :=
  Text.dropAround (fun c => !Status.isAddressChar c) word

/--
A row of the tag table.  The cells in front of the sequence numbers are words with the
spaces before each; the marker of an open connection may be one of them.
-/
structure TableRow where
  leading : List SpacedWord
  /-- Spaces in front of the sequence numbers beyond their own, as the last cell leaves
  when it is shorter than its heading. -/
  indent : Nat
  triple : SeqTriple
  address : ShownAddress
  isOpen : Bool
  /-- The marker behind the address. -/
  trailing : Option OpenWord
  leading_isLine : IsLine leading
  /-- No cell in front is a sequence column. -/
  leading_not_column : ∀ w ∈ leading.head?, w.column? true = none
  leading_tail_not_column : ∀ w ∈ leading.tail, w.column? false = none
  /-- No cell in front is an address. -/
  leading_not_address : ∀ w ∈ leading, Status.isAddress (addressPart w.word) = false
  /-- Only the marker starts like one. -/
  leading_marker : ∀ w ∈ leading, openMarker <+: w.word → ∃ marker : OpenWord, w.word = marker.text
  /-- There is a marker exactly if the connection is open. -/
  marked_iff : isOpen = true ↔
    (∃ marker : OpenWord, ∃ w ∈ leading, w.word = marker.text) ∨ trailing.isSome = true

namespace TableRow

/-- The spaces between two cells. -/
def gap : List Char := List.replicate columnGap ' '

/-- A row as it is printed: the cells in front, the three numbers in their columns, the
address, and perhaps the marker. -/
def text (r : TableRow) : List Char :=
  joined r.leading ++ (if r.leading.isEmpty then [] else gap) ++ List.replicate r.indent ' ' ++
    columnText r.triple.own ++ gap ++ columnText r.triple.peerTx ++ gap ++
    columnText r.triple.peerRx ++ gap ++ r.address.text ++
    match r.trailing with
    | some marker => gap ++ marker.text
    | none => []

/-- What a row says. -/
def record (r : TableRow) : TagRecord where
  triple := r.triple
  address := some (Status.lowerCase r.address.text)
  isOpen := r.isOpen
  windows := [r.triple]

/-- The cells from the first sequence number on. -/
def columnCells (r : TableRow) : List SpacedWord :=
  columnCell ((if r.leading.isEmpty then 0 else columnGap) + r.indent) r.triple.own ::
    columnCell columnGap r.triple.peerTx :: columnCell columnGap r.triple.peerRx ::
    ⟨columnGap, r.address.text⟩ :: (r.trailing.map fun m => ⟨columnGap, m.text⟩).toList

/-- All cells of a row. -/
def cells (r : TableRow) : List SpacedWord := r.leading ++ r.columnCells

theorem text_eq_joined (r : TableRow) : r.text = joined r.cells := by
  have hgap : ∀ word, (⟨columnGap, word⟩ : SpacedWord).text = gap ++ word := fun _ => rfl
  have hspaces : (if r.leading.isEmpty then [] else gap) ++ List.replicate r.indent ' ' =
      List.replicate ((if r.leading.isEmpty then 0 else columnGap) + r.indent) ' ' := by
    rw [← List.replicate_append_replicate]
    split <;> rfl
  have hcells : joined r.columnCells = List.replicate
      ((if r.leading.isEmpty then 0 else columnGap) + r.indent) ' ' ++
        columnText r.triple.own ++ gap ++ columnText r.triple.peerTx ++ gap ++
        columnText r.triple.peerRx ++ gap ++ r.address.text ++
        match r.trailing with
        | some marker => gap ++ marker.text
        | none => [] := by
    simp only [columnCells, joined, List.flatMap_cons, columnCell_text, hgap]
    cases r.trailing <;> simp [gap, SpacedWord.text]
  rw [cells, joined_append, hcells, ← hspaces, text]
  simp only [List.append_assoc]

end TableRow

/-! ## Addresses in rows -/

namespace ShownAddress

theorem groups_ne_nil (a : ShownAddress) : a.groups ≠ [] := by
  intro hnil
  have hcount := a.count
  simp [hnil] at hcount

theorem isHexDigit_of_mem {a : ShownAddress} {group : List Char} (hgroup : group ∈ a.groups)
    {c : Char} (hc : c ∈ group) : Text.isHexDigit c = true := by
  have hoctet := a.octets group hgroup
  simp only [Status.isOctetGroup, Bool.and_eq_true, List.all_eq_true] at hoctet
  exact hoctet.2 c hc

theorem colonPieces_text (a : ShownAddress) : Address.colonPieces a.text = a.groups :=
  Text.splitBy_intercalate
    (fun _ hgroup => Text.not_mem_of_forall rfl fun _ hc => isHexDigit_of_mem hgroup hc)
    a.groups_ne_nil

theorem isAddress_text (a : ShownAddress) : Status.isAddress a.text = true := by
  have hall : a.groups.all Status.isOctetGroup = true := List.all_eq_true.mpr a.octets
  unfold Status.isAddress
  dsimp only
  rw [colonPieces_text, hall]
  simpa using a.count

theorem isAddressChar_of_mem_text {a : ShownAddress} {c : Char} (h : c ∈ a.text) :
    Status.isAddressChar c = true := by
  rcases Text.mem_intercalate_cases h with rfl | ⟨group, hgroup, hc⟩
  · decide
  · simp [Status.isAddressChar, isHexDigit_of_mem hgroup hc]

theorem isWord_text (a : ShownAddress) (spaces : Nat) :
    (⟨spaces, a.text⟩ : SpacedWord).IsWord := by
  constructor
  · intro hnil
    have haddress := a.isAddress_text
    rw [show a.text = [] from hnil] at haddress
    revert haddress
    decide
  · intro c hc
    have hchar := isAddressChar_of_mem_text hc
    simp only [Status.isAddressChar, Bool.or_eq_true, beq_iff_eq] at hchar
    rcases hchar with hhex | rfl
    · exact Text.isBlank_eq_false_of_isHexDigit hhex
    · decide

/-- There is nothing around a shown address. -/
theorem addressPart_text (a : ShownAddress) : addressPart a.text = a.text :=
  Text.dropAround_eq_self fun c hc => by simp [isAddressChar_of_mem_text hc]

/-- An address has colons in it, so it is no number. -/
theorem colon_mem_text (a : ShownAddress) : ':' ∈ a.text := by
  by_cases hcolon : ':' ∈ a.text
  · exact hcolon
  · have hpieces : Address.colonPieces a.text = [a.text] :=
      Text.splitBy_eq_singleton fun c hc => by
        rw [beq_eq_false_iff_ne]
        rintro rfl
        exact hcolon hc
    have hcount := a.count
    rw [← a.colonPieces_text, hpieces] at hcount
    simp at hcount

theorem openMarker_not_prefix_text (a : ShownAddress) : ¬ openMarker <+: a.text := by
  intro hprefix
  have hmem : 'O' ∈ a.text := hprefix.subset (by decide)
  have hchar := isAddressChar_of_mem_text hmem
  revert hchar
  decide

end ShownAddress

/-! ## Numbers in rows -/

theorem isAddress_digits (n : Nat) : Status.isAddress (addressPart (Text.digits n)) = false := by
  have hhex : ∀ c ∈ Text.digits n, Text.isHexDigit c = true := fun c hc =>
    Text.isHexDigit_of_isDigit (Text.isDigit_of_mem_digits hc)
  have hpart : addressPart (Text.digits n) = Text.digits n :=
    Text.dropAround_eq_self fun c hc => by simp [Status.isAddressChar, hhex c hc]
  have hpieces : Address.colonPieces (Text.digits n) = [Text.digits n] :=
    Text.splitBy_eq_singleton fun c hc => by
      rw [beq_eq_false_iff_ne]
      rintro rfl
      exact absurd (hhex ':' hc) (by decide)
  rw [hpart, Status.isAddress, hpieces]
  rfl

theorem openMarker_not_prefix_digits (n : Nat) : ¬ openMarker <+: Text.digits n := by
  intro hprefix
  have hmem : 'O' ∈ Text.digits n := hprefix.subset (by decide)
  have hdigit := Text.isDigit_of_mem_digits hmem
  revert hdigit
  decide

/-! ## Reading rows -/

namespace OpenWord

theorem openMarker_prefix_text (m : OpenWord) : openMarker <+: m.text := by
  cases m <;> decide

theorem isWord_text (m : OpenWord) (spaces : Nat) :
    (⟨spaces, m.text⟩ : SpacedWord).IsWord := by
  cases m with
  | short => exact isWord_of_all spaces (by decide) (by decide)
  | long => exact isWord_of_all spaces (by decide) (by decide)

theorem column?_eq_none (m : OpenWord) (spaces : Nat) :
    (⟨spaces, m.text⟩ : SpacedWord).column? false = none :=
  TtpConformance.column?_eq_none (m.openMarker_prefix_text.subset List.mem_cons_self)
    (by decide) false

end OpenWord

namespace TableRow

variable (r : TableRow)

theorem isLine_cells : IsLine r.cells := by
  have hwords : ∀ w ∈ r.columnCells, w.IsWord := by
    intro w hw
    simp only [columnCells, List.mem_cons, Option.mem_toList, Option.map_eq_some_iff] at hw
    rcases hw with rfl | rfl | rfl | rfl | ⟨marker, -, rfl⟩
    · exact isWord_columnCell ..
    · exact isWord_columnCell ..
    · exact isWord_columnCell ..
    · exact r.address.isWord_text columnGap
    · exact marker.isWord_text columnGap
  have hgaps : ∀ w ∈ r.columnCells.tail, 0 < w.spaces := by
    intro w hw
    simp only [columnCells, List.tail_cons, List.mem_cons, Option.mem_toList,
      Option.map_eq_some_iff] at hw
    have hgap : 0 < columnGap := by decide
    rcases hw with rfl | rfl | rfl | ⟨marker, -, rfl⟩
    · exact Nat.add_pos_left hgap _
    · exact Nat.add_pos_left hgap _
    · exact hgap
    · exact hgap
  refine ⟨fun w hw => ?_, fun w hw => ?_⟩
  · rcases List.mem_append.mp hw with hw | hw
    · exact r.leading_isLine.words w hw
    · exact hwords w hw
  · by_cases hleading : r.leading = []
    · rw [cells, hleading, List.nil_append] at hw
      exact hgaps w hw
    · rw [cells, List.tail_append_of_ne_nil hleading, List.mem_append] at hw
      rcases hw with hw | hw
      · exact r.leading_isLine.gaps w hw
      · rw [columnCells, List.mem_cons] at hw
        rcases hw with rfl | hw
        · have hfirst : r.leading.isEmpty = false := by simpa using hleading
          rw [hfirst]
          exact Nat.add_pos_left (Nat.add_pos_left (by decide) _) _
        · exact hgaps w hw

/-- The columns from the first sequence number on are one run of three. -/
theorem tripleRuns_columnCells {before : Nat} {isFirst : Bool}
    (h : isFirst = false → columnGap ≤ before) :
    tripleRuns ((columnCell before r.triple.own).column? isFirst ::
        r.columnCells.tail.map (·.column? false)) = [r.triple] := by
  have hgap : false = false → columnGap ≤ columnGap := fun _ => Nat.le_refl _
  have haddress : (⟨columnGap, r.address.text⟩ : SpacedWord).column? false = none :=
    column?_eq_none r.address.colon_mem_text (by decide) false
  simp only [columnCells, List.tail_cons, List.map_cons, columnCell_column? _ h,
    columnCell_column? _ hgap, haddress]
  cases r.trailing with
  | none => simp [tripleRuns]
  | some marker => simp [tripleRuns, marker.column?_eq_none columnGap]

/-- A row has one run of columns, its triple. -/
theorem sequenceWindows_text : sequenceWindows r.text = [r.triple] := by
  have hline := r.isLine_cells
  rw [sequenceWindows, text_eq_joined]
  cases hleading : r.leading with
  | nil =>
      have hcells : r.cells = columnCell r.indent r.triple.own :: r.columnCells.tail := by
        simp [cells, columnCells, hleading]
      rw [hcells] at hline ⊢
      rw [columns_joined hline]
      exact r.tripleRuns_columnCells (by simp)
  | cons w leading =>
      have hcells : r.cells = w :: (leading ++
          columnCell (columnGap + r.indent) r.triple.own :: r.columnCells.tail) := by
        simp [cells, columnCells, hleading]
      have hfirst : w.column? true = none :=
        r.leading_not_column w (by rw [hleading]; rfl)
      have hnone : ∀ value ∈ none :: leading.map (·.column? false), value = none := by
        intro value hvalue
        rcases List.mem_cons.mp hvalue with rfl | hvalue
        · rfl
        · obtain ⟨v, hv, rfl⟩ := List.mem_map.mp hvalue
          exact r.leading_tail_not_column v (by rw [hleading]; exact hv)
      rw [hcells] at hline ⊢
      rw [columns_joined hline, hfirst, List.map_append, ← List.cons_append,
        tripleRuns_append_of_none hnone, List.map_cons]
      exact r.tripleRuns_columnCells fun _ => Nat.le_add_right columnGap r.indent

/-- The words of a row: those in front, the numbers, the address and the marker. -/
theorem words_text : Text.words r.text = r.leading.map (·.word) ++
    [Text.digits r.triple.own.toNat, Text.digits r.triple.peerTx.toNat,
      Text.digits r.triple.peerRx.toNat, r.address.text] ++
    (r.trailing.map OpenWord.text).toList := by
  rw [text_eq_joined, words_joined r.isLine_cells]
  cases htrailing : r.trailing <;> simp [cells, columnCells, columnCell, htrailing]

/-- The first address in a row is the peer's. -/
theorem findAddress?_text :
    Status.findAddress? r.text = some (Status.lowerCase r.address.text) := by
  have hleading : ((r.leading.map (·.word)).map addressPart).find? Status.isAddress = none := by
    rw [List.find?_eq_none]
    simpa using r.leading_not_address
  have hfind : ((Text.words r.text).map addressPart).find? Status.isAddress =
      some r.address.text := by
    rw [words_text, List.map_append, List.map_append, List.find?_append, List.find?_append,
      hleading]
    simp [isAddress_digits, r.address.addressPart_text, r.address.isAddress_text]
  exact congrArg (Option.map Status.lowerCase) hfind

/-- A row shows the marker exactly if its connection is open. -/
theorem showsOpen_text : showsOpen r.text = r.isOpen := by
  rw [Bool.eq_iff_iff, r.marked_iff, showsOpen, words_text]
  simp only [List.any_append, List.any_cons, List.any_nil, Bool.or_false, Bool.or_eq_true,
    List.any_eq_true, List.isPrefixOf_iff_prefix, openMarker_not_prefix_digits,
    r.address.openMarker_not_prefix_text, or_false]
  constructor
  · rintro (⟨word, hword, hprefix⟩ | ⟨word, hword, -⟩)
    · obtain ⟨w, hw, rfl⟩ := List.mem_map.mp hword
      obtain ⟨marker, hmarker⟩ := r.leading_marker w hw hprefix
      exact .inl ⟨marker, w, hw, hmarker⟩
    · right
      cases htrailing : r.trailing with
      | none => simp [htrailing] at hword
      | some marker => rfl
  · rintro (⟨marker, w, hw, hmarker⟩ | htrailing)
    · exact .inl ⟨w.word, List.mem_map_of_mem hw, hmarker ▸ marker.openMarker_prefix_text⟩
    · obtain ⟨marker, hmarker⟩ := Option.isSome_iff_exists.mp htrailing
      exact .inr ⟨marker.text, by simp [hmarker], marker.openMarker_prefix_text⟩

theorem newline_not_mem_text : '\n' ∉ r.text := by
  rw [text_eq_joined]
  exact blank_not_mem_joined r.isLine_cells (by decide) (by decide)

theorem dropCarriageReturn_text : Text.dropCarriageReturn r.text = r.text := by
  apply Text.dropCarriageReturn_eq_self
  rw [text_eq_joined]
  exact blank_not_mem_joined r.isLine_cells (by decide) (by decide)

end TableRow

/-- A row is read as what it says. -/
theorem TagTable.parseLine_row (r : TableRow) :
    TagTable.parseLine r.text = { records := [r.record] } := by
  unfold TagTable.parseLine
  rw [r.findAddress?_text, r.showsOpen_text, r.sequenceWindows_text]
  rfl

/-! ## Remarks -/

/-- A header or another line that is no row: it has no three adjacent columns, with or
without a carriage return at its end, and no address. -/
structure Remark where
  text : List Char
  newline_not_mem : '\n' ∉ text
  no_run : ∀ line ∈ [text, Text.dropCarriageReturn text],
    ∀ a b c, ¬ [some a, some b, some c] <:+: columns line
  no_address : ∀ word ∈ Text.words text, Status.isAddress (addressPart word) = false

/-- Nothing is read from a remark. -/
theorem TagTable.parseLine_remark (m : Remark) {line : List Char}
    (h : line ∈ [m.text, Text.dropCarriageReturn m.text]) : TagTable.parseLine line = {} := by
  have hwords : Text.words line = Text.words m.text := by
    simp only [List.mem_cons, List.not_mem_nil, or_false] at h
    rcases h with rfl | rfl
    · rfl
    · exact Text.words_dropCarriageReturn m.text
  have hnone : ((Text.words line).map addressPart).find? Status.isAddress = none := by
    rw [List.find?_eq_none, hwords]
    simpa using m.no_address
  have haddress : Status.findAddress? line = none := congrArg (Option.map Status.lowerCase) hnone
  have hwindows : sequenceWindows line = [] := tripleRuns_eq_nil_iff.mpr (m.no_run line h)
  unfold TagTable.parseLine
  rw [haddress, hwindows]
  simp

/-! ## Tables -/

/-- A line of a table. -/
inductive TableLine where
  | row (r : TableRow)
  | remark (m : Remark)

namespace TableLine

/-- A line as it is printed. -/
def text : TableLine → List Char
  | .row r => r.text
  | .remark m => m.text

/-- What a line says about a connection. -/
def record? : TableLine → Option TagRecord
  | .row r => some r.record
  | .remark _ => none

/-- The text of a table: its lines, joined by line feeds. -/
def tableText (lines : List TableLine) : String :=
  .ofList (['\n'].intercalate (lines.map text))

theorem newline_not_mem_text (l : TableLine) : '\n' ∉ l.text := by
  cases l with
  | row r => exact r.newline_not_mem_text
  | remark m => exact m.newline_not_mem

theorem parseLine_text (l : TableLine) :
    TagTable.parseLine l.text = { records := l.record?.toList } := by
  cases l with
  | row r => exact TagTable.parseLine_row r
  | remark m => exact TagTable.parseLine_remark m List.mem_cons_self

theorem parseLine_dropCarriageReturn (l : TableLine) :
    TagTable.parseLine (Text.dropCarriageReturn l.text) = TagTable.parseLine l.text := by
  cases l with
  | row r => exact congrArg TagTable.parseLine r.dropCarriageReturn_text
  | remark m =>
      have hplain := TagTable.parseLine_remark m List.mem_cons_self
      have hreturn := TagTable.parseLine_remark m (List.mem_cons_of_mem _ List.mem_cons_self)
      exact hreturn.trans hplain.symm

/-- What is read from the lines of a table, line by line. -/
theorem flatMap_lines_tableText {β : Type} (lines : List TableLine) (f : TagTable → List β)
    (hempty : f {} = []) :
    (Text.lines (tableText lines).toList).flatMap (fun line => f (TagTable.parseLine line)) =
      lines.flatMap fun l => f { records := l.record?.toList } := by
  have hline : ∀ piece ∈ lines.map text, '\n' ∉ piece := by
    intro piece hpiece
    obtain ⟨l, -, rfl⟩ := List.mem_map.mp hpiece
    exact l.newline_not_mem_text
  have hreturn : ∀ piece ∈ lines.map text,
      f (TagTable.parseLine (Text.dropCarriageReturn piece)) = f (TagTable.parseLine piece) := by
    intro piece hpiece
    obtain ⟨l, -, rfl⟩ := List.mem_map.mp hpiece
    rw [l.parseLine_dropCarriageReturn]
  have hnothing : f (TagTable.parseLine []) = [] := by
    rw [TagTable.parseLine_nil, hempty]
  rw [tableText, String.toList_ofList, Text.flatMap_lines_intercalate hnothing hline hreturn,
    List.flatMap_map]
  exact congrArg lines.flatMap (funext fun l => congrArg f l.parseLine_text)

end TableLine

/--
A table is read back.  Whatever stands in front of the sequence numbers, however many
digits they have, and wherever the marker stands, the text of a table is read as exactly
its rows, in order: each with its triple and no other, with its address in lower case,
and open exactly if it is marked.
-/
theorem TagTable.parse_tableText (lines : List TableLine) :
    TagTable.parse (TableLine.tableText lines) =
      { records := lines.filterMap TableLine.record?, openAddresses := [] } := by
  let text := TableLine.tableText lines
  have hrecords : (TagTable.parse text).records = lines.filterMap TableLine.record? := by
    rw [TagTable.records_parse, TableLine.flatMap_lines_tableText lines TagTable.records rfl]
    exact (List.filterMap_eq_flatMap_toList _ _).symm
  have hopen : (TagTable.parse text).openAddresses = [] := by
    rw [TagTable.openAddresses_parse,
      TableLine.flatMap_lines_tableText lines TagTable.openAddresses rfl]
    exact List.flatMap_eq_nil_iff.mpr fun _ _ => rfl
  calc
    TagTable.parse text
    _ = ⟨(TagTable.parse text).records, (TagTable.parse text).openAddresses⟩ := rfl
    _ = { records := lines.filterMap TableLine.record?, openAddresses := [] } := by
      rw [hrecords, hopen]

/-- A row without cells in front and without a marker. -/
def TableRow.plain (triple : SeqTriple) (address : ShownAddress) : TableRow where
  leading := []
  indent := 0
  triple := triple
  address := address
  isOpen := false
  trailing := none
  leading_isLine := ⟨by simp, by simp⟩
  leading_not_column := by simp
  leading_tail_not_column := by simp
  leading_not_address := by simp
  leading_marker := by simp
  marked_iff := by simp

/-- Three groups with a lower-case letter. -/
def ShownAddress.shortSample : ShownAddress :=
  ⟨["00".toList, "00".toList, "0a".toList], by decide, by decide⟩

/-- Six groups with upper-case letters. -/
def ShownAddress.longSample : ShownAddress :=
  ⟨["98".toList, "ED".toList, "5C".toList, "00".toList, "00".toList, "0B".toList],
    by decide, by decide⟩

/-- The names of the columns. -/
def Remark.headingSample : Remark where
  text := "node      seq       tx       rx  address".toList
  newline_not_mem := by decide
  no_run := fun line hline => tripleRuns_eq_nil_iff.mp (by
    revert line
    decide +kernel)
  no_address := by decide +kernel

/-- A row with a marker behind the address. -/
def TableRow.openSample : TableRow :=
  { TableRow.plain ⟨1, 2, 3⟩ .shortSample with
    isOpen := true
    trailing := some .long
    marked_iff := by simp }

/-- A row with a cell in front, whose numbers outgrow their columns. -/
def TableRow.wideSample : TableRow where
  leading := [⟨0, "n1".toList⟩]
  indent := 0
  triple := ⟨18446744073709551615, 12345678, 7⟩
  address := .longSample
  isOpen := false
  trailing := none
  leading_isLine := ⟨fun w hw => by
    rw [List.mem_singleton.mp hw]
    exact isWord_of_all 0 (by decide) (by decide), by simp⟩
  leading_not_column := by decide
  leading_tail_not_column := by simp
  leading_not_address := by decide
  leading_marker := by simp [openMarker]
  marked_iff := by
    simp only [Bool.false_eq_true, Option.isSome_none, or_false, false_iff, List.mem_singleton]
    rintro ⟨marker, w, rfl, hmarker⟩
    cases marker <;> exact absurd hmarker (by decide)

/-- A heading, an open row, and a row whose numbers outgrow their columns. -/
theorem TagTable.parse_tableText_sample :
    TagTable.parse ("node      seq       tx       rx  address\n" ++
        "      1        2        3  00:00:0a  OPEN\n" ++
        "n1  18446744073709551615  12345678        7  98:ED:5C:00:00:0B") =
      { records :=
        [⟨⟨1, 2, 3⟩, some "00:00:0a".toList, true, [⟨1, 2, 3⟩]⟩,
          ⟨⟨18446744073709551615, 12345678, 7⟩, some "98:ed:5c:00:00:0b".toList, false,
            [⟨18446744073709551615, 12345678, 7⟩]⟩] } := by
  have hread := TagTable.parse_tableText
    [.remark .headingSample, .row .openSample, .row .wideSample]
  have htext : TableLine.tableText
      [.remark .headingSample, .row .openSample, .row .wideSample] =
        "node      seq       tx       rx  address\n" ++
          "      1        2        3  00:00:0a  OPEN\n" ++
          "n1  18446744073709551615  12345678        7  98:ED:5C:00:00:0B" := by
    decide +kernel
  rw [htext] at hread
  exact hread

end TtpConformance
