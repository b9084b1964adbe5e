import Mathlib.Data.Bool.AllAny
import Mathlib.Data.List.Induction
import Mathlib.Data.List.Nodup
import TtpConformance.Proofs.Text.Numeral
import TtpConformance.Proofs.Text.Words
import TtpConformance.Verify.Failure

/-!
# Counters are read field by field

A text of counters is cut into lines, the lines into fields, and each field at its first
colon.  What a single field shows is settled by the field alone: a name in front of the
colon, and behind it a number and nothing else, with any white space around either.  Of a
counter's fields the last one counts, and a field that shows no counter counts for nothing.

Lines and fields need not be told apart for this.  A carriage return that belongs to the end
of a line is white space at the end of a field, and the empty field behind the last line end
shows nothing, so a text may as well be cut at line feeds, commas and semicolons alike.

## Main definitions

* `Stats.ShowsCounter`, `Stats.LastShows` — what a field shows, and what the last one of a
  name does.
* `Stats.PrintedCounter`, `Stats.CounterSheet` — counters as they may be printed.

## Main statements

* `Stats.readField?_eq_some_iff` — what a field is read as.
* `Stats.get?_parse_eq_some_iff` — the value of a counter.
* `Stats.CounterSheet.counters_parse_text` — printed counters are read back.
* `Stats.parse_last_wins` — what is read of a text, and whether buffers are pending.
-/

namespace TtpConformance.Stats

/-! ## Counters by name -/

section Insert

variable {s t : Stats} {name other : String} {value : UInt64}

/-- Counters in the order of their names, with no name twice. -/
def Ordered (s : Stats) : Prop := s.counters.Pairwise fun a b => a.1 < b.1

theorem get?_insert : (s.insert name value).get? other =
    if name = other then some value else s.get? other := by
  obtain ⟨counters⟩ := s
  induction counters with
  | nil => by_cases hname : name = other <;> simp [insert, insertCounter, get?, hname]
  | cons e rest ih =>
      obtain ⟨key, old⟩ := e
      simp only [insert, get?, insertCounter] at ih ⊢
      grind

theorem mem_insertCounter {e : String × UInt64} {counters : List (String × UInt64)}
    (h : e ∈ insertCounter name value counters) : e = (name, value) ∨ e ∈ counters := by
  induction counters with
  | nil => simpa [insertCounter] using h
  | cons d rest ih =>
      obtain ⟨key, old⟩ := d
      grind [insertCounter]

theorem Ordered.insert (h : s.Ordered) (name : String) (value : UInt64) :
    (s.insert name value).Ordered := by
  obtain ⟨counters⟩ := s
  simp only [Ordered, Stats.insert] at h ⊢
  induction counters with
  | nil => simp [insertCounter]
  | cons e rest ih =>
      obtain ⟨key, old⟩ := e
      obtain ⟨hfirst, hrest⟩ := List.pairwise_cons.mp h
      rw [insertCounter]
      split
      · rename_i heq
        exact List.pairwise_cons.mpr ⟨heq ▸ hfirst, hrest⟩
      · rename_i hne
        split
        · rename_i hlt
          refine List.pairwise_cons.mpr ⟨fun d hd => ?_, h⟩
          rcases List.mem_cons.mp hd with rfl | hd
          · exact hlt
          · exact String.lt_trans hlt (hfirst d hd)
        · rename_i hnot
          refine List.pairwise_cons.mpr ⟨fun d hd => ?_, ih hrest⟩
          rcases mem_insertCounter hd with rfl | hd
          · exact Std.lt_of_le_of_ne hnot (Ne.symm hne)
          · exact hfirst d hd

/-- A counter that is not there yet is put between the others. -/
theorem insertCounter_perm {counters : List (String × UInt64)}
    (h : name ∉ counters.map Prod.fst) :
    (insertCounter name value counters).Perm ((name, value) :: counters) := by
  induction counters with
  | nil => exact List.Perm.refl _
  | cons e rest ih =>
      obtain ⟨key, old⟩ := e
      rw [List.map_cons, List.mem_cons, not_or] at h
      rw [insertCounter, if_neg h.1]
      split
      · exact List.Perm.refl _
      · exact ((ih h.2).cons (key, old)).trans (List.Perm.swap _ _ _)

theorem Ordered.get?_eq_some_iff (h : s.Ordered) :
    s.get? name = some value ↔ (name, value) ∈ s.counters := by
  obtain ⟨counters⟩ := s
  simp only [Ordered, get?] at h ⊢
  induction counters with
  | nil => simp
  | cons e rest ih =>
      obtain ⟨key, old⟩ := e
      obtain ⟨hfirst, hrest⟩ := List.pairwise_cons.mp h
      by_cases hkey : key = name
      · subst hkey
        have hnone : (key, value) ∉ rest := fun hmem =>
          String.lt_irrefl key (hfirst (key, value) hmem)
        simp [hnone, eq_comm]
      · simp [hkey, Ne.symm hkey, ih hrest]

/-- Counters in order are known by their values. -/
theorem Ordered.eq_of_get? (hs : s.Ordered) (ht : t.Ordered)
    (h : ∀ name value, s.get? name = some value ↔ t.get? name = some value) : s = t := by
  have hdiffer : ∀ {u : Stats}, u.Ordered → u.counters.Nodup := by
    intro u hu
    refine List.Pairwise.imp ?_ hu
    rintro a b hlt rfl
    exact String.lt_irrefl _ hlt
  have hmem : ∀ e, e ∈ s.counters ↔ e ∈ t.counters := fun e => by
    rw [← hs.get?_eq_some_iff, ← ht.get?_eq_some_iff]
    exact h e.1 e.2
  have hperm : s.counters.Perm t.counters :=
    (List.perm_ext_iff_of_nodup (hdiffer hs) (hdiffer ht)).mpr hmem
  have hsame : s.counters = t.counters := hperm.eq_of_pairwise
    (fun a b _ _ hab hba => absurd (String.lt_trans hab hba) (String.lt_irrefl _)) hs ht
  cases s
  cases t
  exact congrArg Stats.mk hsame

/-- Sets counters one after the other. -/
def insertAll (s : Stats) (entries : List (String × UInt64)) : Stats :=
  entries.foldl (fun s e => s.insert e.1 e.2) s

theorem insertAll_concat (s : Stats) (entries : List (String × UInt64)) (e : String × UInt64) :
    s.insertAll (entries ++ [e]) = (s.insertAll entries).insert e.1 e.2 := by
  rw [insertAll, List.foldl_append]
  rfl

theorem Ordered.insertAll (h : s.Ordered) (entries : List (String × UInt64)) :
    (s.insertAll entries).Ordered := by
  induction entries generalizing s with
  | nil => exact h
  | cons e entries ih => exact ih (h.insert e.1 e.2)

/-- Counters with different names are all kept. -/
theorem counters_insertAll_perm {entries : List (String × UInt64)}
    (h : ((entries ++ s.counters).map Prod.fst).Nodup) :
    (s.insertAll entries).counters.Perm (entries ++ s.counters) := by
  induction entries generalizing s with
  | nil => exact List.Perm.refl _
  | cons e entries ih =>
      rw [List.cons_append, List.map_cons, List.nodup_cons] at h
      have hnew : e.1 ∉ s.counters.map Prod.fst := fun hmem =>
        h.1 (List.map_append ▸ List.mem_append_right _ hmem)
      have hinsert : (s.insert e.1 e.2).counters.Perm (e :: s.counters) := insertCounter_perm hnew
      have hswap : (entries ++ (s.insert e.1 e.2).counters).Perm (e :: (entries ++ s.counters)) :=
        (hinsert.append_left entries).trans List.perm_middle
      have hnodup : ((entries ++ (s.insert e.1 e.2).counters).map Prod.fst).Nodup := by
        rw [(hswap.map Prod.fst).nodup_iff, List.map_cons, List.nodup_cons]
        exact h
      exact (ih hnodup).trans hswap

end Insert

/-! ## Fields -/

section Fields

variable {field : List Char} {fields : List (List Char)} {name : String} {value : UInt64}

/-- A field that shows a counter: a name without colons, a colon, and a number of 64 bits,
with white space around the name and the number. -/
def ShowsCounter (field : List Char) (name : String) (value : UInt64) : Prop :=
  ∃ before after numeral, field = before ++ ':' :: after ∧ ':' ∉ before ∧
    Text.Encloses Text.isBlank before name.toList ∧
    Text.Encloses Text.isBlank after numeral ∧
    Text.Radix.decimal.IsNumeral numeral value.toNat

/-- The last field that shows a counter of the name shows it with this value. -/
def LastShows (fields : List (List Char)) (name : String) (value : UInt64) : Prop :=
  ∃ before field after, fields = before ++ field :: after ∧ ShowsCounter field name value ∧
    ∀ later ∈ after, ∀ v, ¬ ShowsCounter later name v

/-- What a field is read as. -/
theorem readField?_eq_some_iff :
    readField? field = some (name, value) ↔ ShowsCounter field name value := by
  constructor
  · intro h
    unfold readField? at h
    split at h
    · cases h
    · rename_i before after hcut
      obtain ⟨rfl, hcolon⟩ := Text.cutAt_eq_some_iff.mp hcut
      split at h
      · rename_i n hn
        cases h
        refine ⟨before, after, Text.trim after, rfl, hcolon, ?_, Text.dropAround_eq_iff.mp rfl,
          Text.readUInt64_eq_ok_iff_isNumeral.mp hn⟩
        rw [String.toList_ofList]
        exact Text.dropAround_eq_iff.mp rfl
      · cases h
  · rintro ⟨before, after, numeral, rfl, hcolon, hname, hnumeral, hvalue⟩
    have hcut : Text.cutAt ':' (before ++ ':' :: after) = some (before, after) :=
      Text.cutAt_eq_some_iff.mpr ⟨rfl, hcolon⟩
    have hbefore : Text.trim before = name.toList := Text.dropAround_eq_iff.mpr hname
    have hafter : Text.trim after = numeral := Text.dropAround_eq_iff.mpr hnumeral
    have hread := Text.readUInt64_eq_ok_iff_isNumeral.mpr hvalue
    simp [readField?, hcut, hbefore, hafter, hread]

theorem readField?_eq_none_iff :
    readField? field = none ↔ ∀ name value, ¬ ShowsCounter field name value := by
  rw [Option.eq_none_iff_forall_ne_some]
  exact ⟨fun h name value hshows => h (name, value) (readField?_eq_some_iff.mpr hshows),
    fun h e he => h e.1 e.2 (readField?_eq_some_iff.mp he)⟩

theorem lastShows_concat_iff : LastShows (fields ++ [field]) name value ↔
    ShowsCounter field name value ∨
      (∀ v, ¬ ShowsCounter field name v) ∧ LastShows fields name value := by
  constructor
  · rintro ⟨before, shown, after, hfields, hshows, hlater⟩
    obtain rfl | ⟨front, last, rfl⟩ := List.eq_nil_or_concat after
    · obtain ⟨-, hlast⟩ := List.append_inj' hfields rfl
      obtain rfl : field = shown := List.cons.inj hlast |>.1
      exact .inl hshows
    · rw [List.concat_eq_append, ← List.cons_append, ← List.append_assoc] at hfields
      obtain ⟨rfl, hlast⟩ := List.append_inj' hfields rfl
      obtain rfl : field = last := List.cons.inj hlast |>.1
      refine .inr ⟨hlater field (by simp), before, shown, front, rfl, hshows, fun later hmem => ?_⟩
      exact hlater later (by simp [hmem])
  · rintro (hshows | ⟨hnone, before, shown, after, rfl, hshows, hlater⟩)
    · exact ⟨fields, field, [], rfl, hshows, by simp⟩
    · refine ⟨before, shown, after ++ [field], by simp, hshows, fun later hmem => ?_⟩
      rcases List.mem_append.mp hmem with hmem | hmem
      · exact hlater later hmem
      · exact List.mem_singleton.mp hmem ▸ hnone

/-- The counters that fields show. -/
def ofFields (fields : List (List Char)) : Stats :=
  insertAll {} (fields.filterMap readField?)

theorem ordered_ofFields (fields : List (List Char)) : (ofFields fields).Ordered :=
  Ordered.insertAll List.Pairwise.nil _

/-- Of the fields of a counter the last one counts, and no field of another one does. -/
theorem get?_ofFields_eq_some_iff :
    (ofFields fields).get? name = some value ↔ LastShows fields name value := by
  induction fields using List.reverseRecOn with
  | nil =>
      have hnone : ¬ LastShows [] name value := by
        rintro ⟨before, shown, after, hnil, -⟩
        simp at hnil
      simpa [ofFields, insertAll, get?] using hnone
  | append_singleton fields field ih =>
      rw [lastShows_concat_iff]
      cases hread : readField? field with
      | none =>
          have hnone := readField?_eq_none_iff.mp hread
          have hsame : ofFields (fields ++ [field]) = ofFields fields := by
            simp [ofFields, List.filterMap_append, hread]
          simp [hsame, ih, hnone]
      | some e =>
          have hshows : ∀ n v, ShowsCounter field n v ↔ e = (n, v) := fun n v => by
            rw [← readField?_eq_some_iff, hread, Option.some.injEq]
          have hset : ofFields (fields ++ [field]) = (ofFields fields).insert e.1 e.2 := by
            rw [ofFields, List.filterMap_append, List.filterMap_cons_some hread,
              List.filterMap_nil, insertAll_concat]
            rfl
          rw [hset, get?_insert]
          simp only [hshows]
          split
          · rename_i hname
            grind
          · rename_i hname
            grind

theorem exists_lastShows_iff :
    (∃ v, LastShows fields name v) ↔ ∃ field ∈ fields, ∃ v, ShowsCounter field name v := by
  induction fields using List.reverseRecOn with
  | nil =>
      simp [LastShows]
  | append_singleton fields field ih =>
      simp only [lastShows_concat_iff]
      by_cases hshows : ∃ v, ShowsCounter field name v
      · obtain ⟨v, hv⟩ := hshows
        exact iff_of_true ⟨v, .inl hv⟩ ⟨field, by simp, v, hv⟩
      · rw [not_exists] at hshows
        simp [hshows, ih, or_and_right, exists_or]

end Fields

/-! ## Texts -/

/-- The characters that end a field, be it in the middle of a line or at its end. -/
def endsField (c : Char) : Bool := c == '\n' || (c == ',' || c == ';')

/-- White space at the end of a field makes no difference. -/
theorem readField?_append_return (field : List Char) :
    readField? (field ++ ['\r']) = readField? field := by
  unfold readField?
  rw [Text.cutAt_concat (by decide)]
  cases Text.cutAt ':' field with
  | none => rfl
  | some parts =>
      have htrim : Text.trim (parts.2 ++ ['\r']) = Text.trim parts.2 :=
        Text.dropAround_append_of_forall (List.all_eq_true.mp rfl)
      simp only [Option.map_some, htrim]

/-- The characters between the fields of a line. -/
def separatesFields (c : Char) : Bool := c == ',' || c == ';'

/-- What the fields of a line show. -/
def readLine (line : List Char) : List (String × UInt64) :=
  (Text.splitBy separatesFields line).filterMap readField?

theorem readLine_dropCarriageReturn (line : List Char) :
    readLine (Text.dropCarriageReturn line) = readLine line := by
  unfold Text.dropCarriageReturn
  split
  · rename_i hlast
    obtain ⟨front, rfl⟩ := List.getLast?_eq_some_iff.mp hlast
    obtain ⟨pieces, last, hpieces, hconcat⟩ :=
      Text.exists_splitBy_concat (p := separatesFields) (c := '\r') (by decide) front
    simp only [readLine, List.dropLast_concat, hpieces, hconcat, List.filterMap_append,
      List.filterMap_cons, readField?_append_return]
  · rfl

/-- What is read of a text is read of its pieces between the ends of fields. -/
theorem filterMap_fields (cs : List Char) :
    (fields cs).filterMap readField? = (Text.splitBy endsField cs).filterMap readField? := by
  calc (fields cs).filterMap readField?
      = (Text.lines cs).flatMap readLine := List.filterMap_flatMap
    _ = (Text.splitBy (· == '\n') cs).flatMap readLine :=
        Text.flatMap_endLines rfl fun line _ => readLine_dropCarriageReturn line
    _ = ((Text.splitBy (· == '\n') cs).flatMap
          (Text.splitBy separatesFields)).filterMap readField? :=
        List.filterMap_flatMap.symm
    _ = (Text.splitBy endsField cs).filterMap readField? := by
        rw [Text.flatMap_splitBy]
        rfl

theorem parse_eq (text : String) : parse text = ofFields (fields text.toList) := rfl

theorem ordered_parse (text : String) : (parse text).Ordered := ordered_ofFields _

theorem get?_parse_eq_some_iff {text name : String} {value : UInt64} :
    (parse text).get? name = some value ↔ LastShows (fields text.toList) name value :=
  get?_ofFields_eq_some_iff

/-! ## Printed counters -/

/-- A counter as it may be printed: its name, a colon and its value in decimal, with white
space around name and value.  The name has no colon in it and no character that ends a field,
and no white space at its ends. -/
structure PrintedCounter where
  name : String
  value : UInt64
  beforeName : List Char
  afterName : List Char
  beforeValue : List Char
  afterValue : List Char
  name_firm : Text.FirmEnds Text.isBlank name.toList
  name_plain : ∀ c ∈ name.toList, c ≠ ':' ∧ endsField c = false
  blank : ∀ c ∈ beforeName ++ afterName ++ beforeValue ++ afterValue,
    Text.isBlank c = true ∧ c ≠ '\n'

/-- A field that shows no counter. -/
structure FieldRemark where
  text : List Char
  plain : ∀ c ∈ text, endsField c = false
  silent : ∀ name value, ¬ ShowsCounter text name value

/-- A field of a printed text. -/
inductive SheetField where
  | counter (c : PrintedCounter)
  | remark (r : FieldRemark)

/-- What stands between two fields. -/
inductive FieldBreak where
  | comma
  | semicolon
  | lineFeed

/-- A printed text: fields with a comma, a semicolon or a line feed between them. -/
structure CounterSheet where
  first : SheetField
  rest : List (FieldBreak × SheetField)

/-- The character between two fields. -/
def FieldBreak.char : FieldBreak → Char
  | .comma => ','
  | .semicolon => ';'
  | .lineFeed => '\n'

theorem FieldBreak.endsField_char (b : FieldBreak) : endsField b.char = true := by
  cases b <;> rfl

/-- A counter as it is printed. -/
def PrintedCounter.text (c : PrintedCounter) : List Char :=
  (c.beforeName ++ c.name.toList ++ c.afterName) ++
    ':' :: (c.beforeValue ++ Text.digits c.value.toNat ++ c.afterValue)

namespace PrintedCounter

variable (c : PrintedCounter)

theorem showsCounter_text : ShowsCounter c.text c.name c.value := by
  have hblank : ∀ part, part ∈ [c.beforeName, c.afterName, c.beforeValue, c.afterValue] →
      ∀ d ∈ part, Text.isBlank d = true := by
    intro part hpart d hd
    refine (c.blank d ?_).1
    simp only [List.mem_cons, List.not_mem_nil, or_false] at hpart
    rcases hpart with rfl | rfl | rfl | rfl <;> simp [hd]
  have hcolon : ':' ∉ c.beforeName ++ c.name.toList ++ c.afterName := by
    have hnone : ∀ part, part ∈ [c.beforeName, c.afterName, c.beforeValue, c.afterValue] →
        ':' ∉ part := fun part hpart => Text.not_mem_of_forall rfl (hblank part hpart)
    have hname : ':' ∉ c.name.toList := fun hmem => (c.name_plain ':' hmem).1 rfl
    simp [hnone, hname]
  have hdigits : Text.FirmEnds Text.isBlank (Text.digits c.value.toNat) :=
    .of_forall fun d hd => Text.isBlank_eq_false_of_isHexDigit
      (Text.isHexDigit_of_isDigit (Text.isDigit_of_mem_digits hd))
  refine ⟨_, _, Text.digits c.value.toNat, rfl, hcolon, ⟨c.name_firm, ?_⟩, ⟨hdigits, ?_⟩,
    Text.readUInt64_eq_ok_iff_isNumeral.mp (Text.readUInt64_digits c.value)⟩
  · exact ⟨c.beforeName, c.afterName, rfl, hblank _ (by simp), hblank _ (by simp)⟩
  · exact ⟨c.beforeValue, c.afterValue, rfl, hblank _ (by simp), hblank _ (by simp)⟩

theorem endsField_of_mem_text : ∀ d ∈ c.text, endsField d = false := by
  have hblank : ∀ d ∈ c.beforeName ++ c.afterName ++ c.beforeValue ++ c.afterValue,
      endsField d = false := by
    intro d hd
    obtain ⟨hd, hline⟩ := c.blank d hd
    have hcomma : d ≠ ',' := by rintro rfl; exact absurd hd (by decide)
    have hsemicolon : d ≠ ';' := by rintro rfl; exact absurd hd (by decide)
    simp [endsField, hline, hcomma, hsemicolon]
  have hdigits : ∀ d ∈ Text.digits c.value.toNat, endsField d = false := by
    intro d hd
    have hdigit := Text.isDigit_of_mem_digits hd
    cases hend : endsField d with
    | false => rfl
    | true =>
        simp only [endsField, Bool.or_eq_true, beq_iff_eq] at hend
        rcases hend with rfl | rfl | rfl <;> exact absurd hdigit (by decide)
  intro d hd
  simp only [text, List.mem_append, List.mem_cons] at hd
  rcases hd with ((hd | hd) | hd) | rfl | (hd | hd) | hd
  · exact hblank d (by simp [hd])
  · exact (c.name_plain d hd).2
  · exact hblank d (by simp [hd])
  · rfl
  · exact hblank d (by simp [hd])
  · exact hdigits d hd
  · exact hblank d (by simp [hd])

end PrintedCounter

namespace SheetField

/-- A field as it is printed. -/
def text : SheetField → List Char
  | .counter c => c.text
  | .remark r => r.text

/-- The counter that a field shows, and its value. -/
def entry? : SheetField → Option (String × UInt64)
  | .counter c => some (c.name, c.value)
  | .remark _ => none

theorem readField?_text (f : SheetField) : readField? f.text = f.entry? := by
  cases f with
  | counter c => exact readField?_eq_some_iff.mpr c.showsCounter_text
  | remark r => exact readField?_eq_none_iff.mpr r.silent

theorem endsField_of_mem_text (f : SheetField) : ∀ d ∈ f.text, endsField d = false := by
  cases f with
  | counter c => exact c.endsField_of_mem_text
  | remark r => exact r.plain

end SheetField

namespace CounterSheet

/-- The fields of a printed text. -/
def sheetFields (s : CounterSheet) : List SheetField := s.first :: s.rest.map Prod.snd

/-- The printed counters with their values. -/
def counters (s : CounterSheet) : List (String × UInt64) :=
  s.sheetFields.filterMap SheetField.entry?

/-- A printed text. -/
def text (s : CounterSheet) : String :=
  .ofList (s.first.text ++ s.rest.flatMap fun (b, f) => b.char :: f.text)

theorem splitBy_text (s : CounterSheet) :
    Text.splitBy endsField s.text.toList = s.sheetFields.map SheetField.text := by
  obtain ⟨first, rest⟩ := s
  rw [text, String.toList_ofList]
  induction rest generalizing first with
  | nil => simpa [sheetFields] using Text.splitBy_eq_singleton first.endsField_of_mem_text
  | cons e rest ih =>
      obtain ⟨b, f⟩ := e
      rw [List.flatMap_cons, List.cons_append, Text.splitBy_append_cons b.endsField_char, ih f,
        Text.splitBy_eq_singleton first.endsField_of_mem_text]
      rfl

/-- What is read of a printed text is what was printed. -/
theorem filterMap_fields_text (s : CounterSheet) :
    (fields s.text.toList).filterMap readField? = s.counters := by
  rw [filterMap_fields, splitBy_text, List.filterMap_map]
  exact List.filterMap_congr fun f _ => f.readField?_text

/-- Printed counters with different names are read back, and nothing else is. -/
theorem counters_parse_text {s : CounterSheet} (h : (s.counters.map Prod.fst).Nodup) :
    (parse s.text).counters.Perm s.counters := by
  have hnone : s.counters ++ ({} : Stats).counters = s.counters := List.append_nil _
  have hperm := Stats.counters_insertAll_perm (hnone.symm ▸ h)
  rw [hnone] at hperm
  rwa [parse_eq, ofFields, filterMap_fields_text]

end CounterSheet

/-! ## Pending buffers -/

theorem checkPending_eq_ok_iff {node : String} {stats : Stats} :
    checkPending node stats = .ok () ↔ stats.get? "skb_ct" = some 0 := by
  unfold checkPending pending? pendingName
  cases stats.get? "skb_ct" with
  | none => simp
  | some n => by_cases hn : n = 0 <;> simp [hn]

/--
What is read of a text of counters, for every text.  A counter has the value of the last
field that shows it, and there is none that no field shows; fields that show nothing, or that
a later one outdoes, have no part in what is read.  No buffers are pending exactly if the last
field of their counter shows zero.  Counters with different names that are printed in any
order, on lines of their own or not, with white space and with other fields between them, are
read back as they are and in the order of their names.
-/
theorem parse_last_wins (node text : String) :
    (∀ name value, (parse text).get? name = some value ↔
        LastShows (fields text.toList) name value) ∧
      (∀ name, (parse text).get? name = none ↔
        ∀ field ∈ fields text.toList, ∀ value, ¬ ShowsCounter field name value) ∧
      (∀ text', (∀ name value, LastShows (fields text'.toList) name value ↔
        LastShows (fields text.toList) name value) → parse text' = parse text) ∧
      (checkPending node (parse text) = .ok () ↔ LastShows (fields text.toList) "skb_ct" 0) ∧
      ∀ sheet : CounterSheet, (sheet.counters.map Prod.fst).Nodup →
        (parse sheet.text).counters.Perm sheet.counters ∧ (parse sheet.text).Ordered ∧
          (checkPending node (parse sheet.text) = .ok () ↔ ("skb_ct", 0) ∈ sheet.counters) := by
  refine ⟨fun name value => get?_parse_eq_some_iff, fun name => ?_, fun text' h => ?_, ?_,
    fun sheet h => ?_⟩
  · rw [Option.eq_none_iff_forall_ne_some]
    simp only [ne_eq, get?_parse_eq_some_iff, ← not_exists]
    rw [exists_lastShows_iff]
    simp
  · refine (ordered_parse text').eq_of_get? (ordered_parse text) fun name value => ?_
    rw [get?_parse_eq_some_iff, get?_parse_eq_some_iff]
    exact h name value
  · rw [checkPending_eq_ok_iff, get?_parse_eq_some_iff]
  · have hperm := CounterSheet.counters_parse_text h
    refine ⟨hperm, ordered_parse sheet.text, ?_⟩
    rw [checkPending_eq_ok_iff, (ordered_parse sheet.text).get?_eq_some_iff]
    exact hperm.mem_iff

/-- A counter at the start of a text. -/
def PrintedCounter.receivedSample : PrintedCounter :=
  ⟨"skb_rx", 3, [], [], [], [], by decide, List.all_iff_forall_prop.mp rfl,
    List.all_iff_forall_prop.mp rfl⟩

/-- The counter of pending buffers, at the end of a line with a carriage return. -/
def PrintedCounter.pendingSample : PrintedCounter :=
  ⟨"skb_ct", 0, ['\t'], [' '], [' '], ['\r'], by decide, List.all_iff_forall_prop.mp rfl,
    List.all_iff_forall_prop.mp rfl⟩

/-- A counter with a space in its name and the greatest value. -/
def PrintedCounter.errorsSample : PrintedCounter :=
  ⟨"rx errors", 18446744073709551615, [], [], [' '], [], by decide,
    List.all_iff_forall_prop.mp rfl, List.all_iff_forall_prop.mp rfl⟩

/-- A field without a number. -/
def FieldRemark.stateSample : FieldRemark :=
  ⟨" up: yes".toList, List.all_iff_forall_prop.mp rfl,
    readField?_eq_none_iff.mp (by decide +kernel)⟩

/-- The counters with the other field between them. -/
def CounterSheet.sample : CounterSheet :=
  ⟨.counter .receivedSample, [(.comma, .remark .stateSample),
    (.semicolon, .counter .pendingSample), (.lineFeed, .counter .errorsSample)]⟩

/-- Three counters on two lines, the first of which has a carriage return at its end, with a
field between them that has no number. -/
theorem parse_last_wins_sample :
    (parse "skb_rx:3, up: yes;\tskb_ct : 0\r\nrx errors: 18446744073709551615").counters =
        [("rx errors", 18446744073709551615), ("skb_ct", 0), ("skb_rx", 3)] ∧
      checkPending "local"
          (parse "skb_rx:3, up: yes;\tskb_ct : 0\r\nrx errors: 18446744073709551615") =
        .ok () := by
  have htext : CounterSheet.sample.text =
      "skb_rx:3, up: yes;\tskb_ct : 0\r\nrx errors: 18446744073709551615" := by
    decide +kernel
  have hcounters : CounterSheet.sample.counters =
      [("skb_rx", 3), ("skb_ct", 0), ("rx errors", 18446744073709551615)] := rfl
  obtain ⟨-, -, -, -, hsheet⟩ := parse_last_wins "local" ""
  obtain ⟨hperm, hordered, hpending⟩ := hsheet .sample (by decide)
  rw [htext] at hperm hordered hpending
  rw [hcounters] at hperm hpending
  refine ⟨?_, hpending.mpr (by decide)⟩
  have hread : Ordered ⟨[("rx errors", 18446744073709551615), ("skb_ct", 0), ("skb_rx", 3)]⟩ := by
    simp only [Ordered]
    decide
  have hsame : (parse "skb_rx:3, up: yes;\tskb_ct : 0\r\nrx errors: 18446744073709551615") =
      ⟨[("rx errors", 18446744073709551615), ("skb_ct", 0), ("skb_rx", 3)]⟩ := by
    refine hordered.eq_of_get? hread fun name value => ?_
    rw [hordered.get?_eq_some_iff, hread.get?_eq_some_iff, hperm.mem_iff]
    simp only [List.mem_cons, List.not_mem_nil, or_false]
    tauto
  rw [hsame]

end TtpConformance.Stats
