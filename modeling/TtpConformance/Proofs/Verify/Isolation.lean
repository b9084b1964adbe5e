import Mathlib.Data.List.Basic
import Mathlib.Logic.Relation
import TtpConformance.Address.Target
import TtpConformance.Proofs.Status.Address
import TtpConformance.Proofs.Status.Columns
import TtpConformance.Verify.Failure

/-!
# What is said about a peer rests on its own rows

A tag table is free text, and the rows of all peers stand in it.  A line is a peer's own
if the address that is found in it ends in the three octets of the peer.  Both things
that are asked of a table, whether it shows expected numbers and whether it lists an open
connection, are functions of the own lines alone, in their order.

So changes of the other lines go unnoticed, and since two peers of different octets
share no line, no row ever speaks for two of them.

## Main definitions

* `Target.isShownBy`, `Target.ownLines` — the lines of a peer.
* `Target.observed` — the triples of all its lines.
* `Target.ForeignChange` — a change that touches no line of it.

## Main statements

* `checkTags_parse`, `TagTable.hasOpen_parse` — what is said, from the own lines.
* `Target.foreignChanges_iff` — what changes of other lines come to.
* `Target.verdicts_isolated` — the verdicts of a peer and its own lines.
-/

namespace TtpConformance

open Relation (ReflTransGen)

namespace Target

/-! ## Own lines -/

/-- Whether the address that a line shows, if any, ends in the octets of a target. -/
def isShownBy (t : Target) (line : List Char) : Bool :=
  match (Status.findAddress? line).bind Address.hexGroups? with
  | some octets => t.octets.toList.isSuffixOf octets
  | none => false

/-- The lines of a text that are a target's own. -/
def ownLines (t : Target) (text : String) : List (List Char) :=
  (Text.lines text.toList).filter t.isShownBy

/-- The triples of all own lines. -/
def observed (t : Target) (text : String) : List SeqTriple :=
  (t.ownLines text).flatMap sequenceWindows

theorem octets_ne_nil (t : Target) : t.octets.toList ≠ [] := List.cons_ne_nil _ _

/-- An address that is found in a line belongs to a target if its octets end in the
target's. -/
theorem addressMatches_of_findAddress? (t : Target) {line address : List Char}
    (h : Status.findAddress? line = some address) :
    Status.addressMatches address t.fragment.toList = t.isShownBy line := by
  obtain ⟨octets, hlength, rfl⟩ := Status.exists_octets_of_findAddress? h
  have hne : octets ≠ [] := by
    rintro rfl
    simp at hlength
  have hread := Address.hexGroups?_joinOctets hne
  have hshown : t.isShownBy line = t.octets.toList.isSuffixOf octets := by
    simp only [isShownBy, h, Option.bind_some, hread]
  rw [hshown, Bool.eq_iff_iff, List.isSuffixOf_iff_suffix]
  exact Status.addressMatches_joinOctets hne t.octets_ne_nil

theorem isShownBy_eq_false (t : Target) {line : List Char}
    (h : Status.findAddress? line = none) : t.isShownBy line = false := by
  simp [isShownBy, h]

/-- Two targets to which one address belongs are the same. -/
theorem eq_of_addressMatches {t t' : Target} {address : List Char}
    (h : Status.addressMatches address t.fragment.toList = true)
    (h' : Status.addressMatches address t'.fragment.toList = true) : t = t' := by
  have hsuffix : ∀ u : Target, Status.addressMatches address u.fragment.toList = true →
      u.fragment.toList <:+ Status.lowerCase address := by
    intro u hu
    have hlower := Status.lowerCase_joinOctets u.octets.toList
    change Status.lowerCase u.fragment.toList = u.fragment.toList at hlower
    simp only [Status.addressMatches, hlower, Bool.or_eq_true, beq_iff_eq,
      List.isSuffixOf_iff_suffix] at hu
    rcases hu with hwhole | hbehind
    · exact hwhole ▸ List.suffix_refl _
    · exact (List.suffix_cons ':' _).trans hbehind
  have hlength : ∀ u : Target, u.fragment.toList.length = 8 := by
    intro u
    change (Address.joinOctets ":" u.octets.toList).toList.length = 8
    rw [Address.toList_joinOctets]
    simp [Address.groups, LowOctets.toList, Address.toList_hexByte, List.intercalate_cons_of_ne_nil]
  have hsame : t.fragment.toList = t'.fragment.toList :=
    (List.suffix_of_suffix_length_le (hsuffix t h) (hsuffix t' h')
      (by simp [hlength])).eq_of_length (by simp [hlength])
  have hoctets : t.octets.toList = t'.octets.toList := by
    have hread := Address.hexGroups?_joinOctets t.octets_ne_nil
    have hread' := Address.hexGroups?_joinOctets t'.octets_ne_nil
    change Address.hexGroups? t.fragment.toList = _ at hread
    change Address.hexGroups? t'.fragment.toList = _ at hread'
    rw [hsame, hread'] at hread
    exact (Option.some.inj hread).symm
  obtain ⟨⟨a, b, c⟩⟩ := t
  obtain ⟨⟨a', b', c'⟩⟩ := t'
  simpa [LowOctets.toList] using hoctets

/-- No line is an own line of two targets. -/
theorem eq_of_isShownBy {t t' : Target} {line : List Char} (h : t.isShownBy line = true)
    (h' : t'.isShownBy line = true) : t = t' := by
  cases haddress : Status.findAddress? line with
  | none => simp [isShownBy_eq_false t haddress] at h
  | some address =>
      rw [← addressMatches_of_findAddress? _ haddress] at h h'
      exact eq_of_addressMatches h h'

/-- No row is a row of two targets. -/
theorem eq_of_isOf {t t' : Target} {r : TagRecord} (h : r.isOf t.fragment.toList = true)
    (h' : r.isOf t'.fragment.toList = true) : t = t' := by
  unfold TagRecord.isOf at h h'
  split at h
  · rename_i address haddress
    simp only [haddress] at h'
    exact eq_of_addressMatches h h'
  · exact absurd h Bool.false_ne_true

end Target

/-! ## Tables by lines -/

namespace TagTable

/-- A line is a row if it has sequence numbers, and else at most an open address. -/
theorem parseLine_cases (line : List Char) :
    (∃ triple, parseLine line = { records :=
      [⟨triple, Status.findAddress? line, showsOpen line, sequenceWindows line⟩] }) ∨
    (sequenceWindows line = [] ∧ parseLine line =
      { openAddresses := if showsOpen line then (Status.findAddress? line).toList else [] }) := by
  cases htriple : (sequenceWindows line).getLast? with
  | some triple => exact .inl ⟨triple, by simp [parseLine, htriple]⟩
  | none =>
      have hnil : sequenceWindows line = [] := List.getLast?_eq_none_iff.mp htriple
      exact .inr ⟨hnil, by simp [parseLine, hnil]⟩

variable (t : Target)

/-- The rows of a line are a target's if the line is its own. -/
theorem filter_records_parseLine (line : List Char) :
    (parseLine line).records.filter (·.isOf t.fragment.toList) =
      if t.isShownBy line then (parseLine line).records else [] := by
  have hisOf : ∀ triple isOpen windows,
      TagRecord.isOf t.fragment.toList ⟨triple, Status.findAddress? line, isOpen, windows⟩ =
        t.isShownBy line := by
    intro triple isOpen windows
    cases haddress : Status.findAddress? line with
    | none => simp [TagRecord.isOf, t.isShownBy_eq_false haddress]
    | some address => simp [TagRecord.isOf, t.addressMatches_of_findAddress? haddress]
  rcases parseLine_cases line with ⟨triple, hline⟩ | ⟨-, hline⟩
  · by_cases hshown : t.isShownBy line <;> simp [hline, hisOf, hshown]
  · simp [hline]

/-- The rows of a target come from its own lines. -/
theorem rowsOf_parse (text : String) :
    (parse text).rowsOf t.fragment =
      (t.ownLines text).flatMap fun line => (parseLine line).records := by
  rw [rowsOf, records_parse, Target.ownLines]
  induction Text.lines text.toList with
  | nil => rfl
  | cons line lines ih =>
      rw [List.flatMap_cons, List.filter_append, ih, filter_records_parseLine]
      by_cases hshown : t.isShownBy line <;> simp [hshown]

/-- The triples of a line's rows are those of its columns. -/
theorem windows_parseLine (line : List Char) :
    (parseLine line).records.flatMap (·.windows) = sequenceWindows line := by
  rcases parseLine_cases line with ⟨triple, hline⟩ | ⟨hnil, hline⟩
  · simp [hline]
  · simp [hline, hnil]

/-- A line lists an open connection to a target, in a row or without one, if it is the
target's own and has the marker. -/
theorem open_parseLine (line : List Char) :
    ((((parseLine line).records.filter (·.isOf t.fragment.toList)).any (·.isOpen)) ||
        (parseLine line).openAddresses.any (Status.addressMatches · t.fragment.toList)) =
      (t.isShownBy line && showsOpen line) := by
  rw [filter_records_parseLine]
  rcases parseLine_cases line with ⟨triple, hline⟩ | ⟨-, hline⟩
  · by_cases hshown : t.isShownBy line <;> simp [hline, hshown]
  · by_cases hopen : showsOpen line
    · cases haddress : Status.findAddress? line with
      | none => simp [hline, haddress, t.isShownBy_eq_false haddress]
      | some address => simp [hline, hopen, haddress, t.addressMatches_of_findAddress? haddress]
    · simp [hline, hopen]

/-- Whether a table lists an open connection to a target. -/
theorem hasOpen_parse (text : String) :
    (parse text).hasOpen t.fragment = (t.ownLines text).any showsOpen := by
  rw [hasOpen, rowsOf, records_parse, openAddresses_parse, Target.ownLines]
  induction Text.lines text.toList with
  | nil => rfl
  | cons line lines ih =>
      have hline := open_parseLine t line
      rw [List.flatMap_cons, List.flatMap_cons, List.filter_append, List.any_append,
        List.any_append, Bool.or_assoc, Bool.or_left_comm _ _ (List.any _ _), ← Bool.or_assoc,
        hline, ih]
      by_cases hshown : t.isShownBy line <;> simp [hshown]

end TagTable

/-- The verdict of a check: whether the expected triple is among those of the own lines. -/
theorem checkTags_parse (t : Target) (text node : String) (expected : SeqTriple) :
    checkTags node (TagTable.parse text) t.fragment expected =
      if expected ∈ t.observed text then .ok ()
      else .error (.sequenceMismatch node t.fragment expected (t.observed text)) := by
  have hobserved :
      ((TagTable.parse text).rowsOf t.fragment).flatMap (·.windows) = t.observed text := by
    rw [TagTable.rowsOf_parse, List.flatMap_assoc, Target.observed]
    exact congrArg (List.flatMap · _) (funext TagTable.windows_parseLine)
  have hshows : ((TagTable.parse text).rowsOf t.fragment).any (·.shows expected) = true ↔
      expected ∈ t.observed text := by
    rw [← hobserved]
    simp [TagRecord.shows]
  unfold checkTags
  simp only [hobserved]
  exact if_congr hshows rfl rfl

/-! ## Changes of other lines -/

namespace Target

variable {t : Target}

/-- One change of the lines of a text that touches no line of a target: another line is
put in, taken out or rewritten into another one, or trades places with its neighbour. -/
inductive ForeignChange (t : Target) : List (List Char) → List (List Char) → Prop
  | insert (above : List (List Char)) {below : List (List Char)} {line : List Char}
    (h : t.isShownBy line = false) :
    ForeignChange t (above ++ below) (above ++ line :: below)
  | delete (above : List (List Char)) {below : List (List Char)} {line : List Char}
    (h : t.isShownBy line = false) :
    ForeignChange t (above ++ line :: below) (above ++ below)
  | edit (above : List (List Char)) {below : List (List Char)} {line line' : List Char}
    (h : t.isShownBy line = false) (h' : t.isShownBy line' = false) :
    ForeignChange t (above ++ line :: below) (above ++ line' :: below)
  | swap (above : List (List Char)) {below : List (List Char)} {line line' : List Char}
    (h : t.isShownBy line = false ∨ t.isShownBy line' = false) :
    ForeignChange t (above ++ line :: line' :: below) (above ++ line' :: line :: below)

namespace ForeignChange

/-- The own lines stay, and stay in order. -/
theorem filter_eq {before after : List (List Char)} (h : ForeignChange t before after) :
    before.filter t.isShownBy = after.filter t.isShownBy := by
  cases h with
  | insert above h => simp [h]
  | delete above h => simp [h]
  | edit above h h' => simp [h, h']
  | swap above h => rcases h with h | h <;> simp [List.filter_cons, h]

theorem symm {before after : List (List Char)} (h : ForeignChange t before after) :
    ForeignChange t after before := by
  cases h with
  | insert above h => exact delete above h
  | delete above h => exact insert above h
  | edit above h h' => exact edit above h' h
  | swap above h => exact swap above h.symm

theorem cons (line : List Char) {before after : List (List Char)}
    (h : ForeignChange t before after) : ForeignChange t (line :: before) (line :: after) := by
  cases h with
  | insert above h => exact insert (line :: above) h
  | delete above h => exact delete (line :: above) h
  | edit above h h' => exact edit (line :: above) h h'
  | swap above h => exact swap (line :: above) h

end ForeignChange

/-- All other lines can be taken out, one by one. -/
theorem foreignChanges_filter (t : Target) (lines : List (List Char)) :
    ReflTransGen (ForeignChange t) lines (lines.filter t.isShownBy) := by
  induction lines with
  | nil => exact .refl
  | cons line lines ih =>
      by_cases hshown : t.isShownBy line = true
      · rw [List.filter_cons_of_pos hshown]
        exact ih.lift (List.cons line) fun _ _ => ForeignChange.cons line
      · rw [List.filter_cons_of_neg hshown]
        have hdelete : ForeignChange t (line :: lines) lines :=
          ForeignChange.delete [] (by simpa using hshown)
        exact .head hdelete ih

/-- Changes of other lines lead from one text to another exactly if the own lines of
both are the same, in the same order. -/
theorem foreignChanges_iff {before after : List (List Char)} :
    ReflTransGen (ForeignChange t) before after ↔
      before.filter t.isShownBy = after.filter t.isShownBy := by
  constructor
  · intro h
    induction h with
    | refl => rfl
    | tail _ hchange ih => exact ih.trans hchange.filter_eq
  · intro h
    have hout := foreignChanges_filter t before
    have hin := foreignChanges_filter t after
    rw [← h] at hin
    have hback := Relation.ReflTransGen.mono (fun _ _ => ForeignChange.symm) _ _ hin.swap
    exact hout.trans hback

/-! ## Verdicts -/

/-- Triples in another order make the same verdict. -/
theorem isOk_checkTags_of_perm {before after : String}
    (h : (t.ownLines before).Perm (t.ownLines after)) (node : String) (expected : SeqTriple) :
    (checkTags node (TagTable.parse before) t.fragment expected).isOk =
      (checkTags node (TagTable.parse after) t.fragment expected).isOk := by
  have hmem : expected ∈ t.observed before ↔ expected ∈ t.observed after :=
    (h.flatMap_right sequenceWindows).mem_iff
  rw [checkTags_parse, checkTags_parse]
  by_cases hshown : expected ∈ t.observed before
  · rw [if_pos hshown, if_pos (hmem.mp hshown)]
  · rw [if_neg hshown, if_neg (mt hmem.mpr hshown)]
    rfl

/--
What is said about a peer rests on its own lines.  Changes of other lines leave the
verdict of every check as it is, with the triples it reports, and leave it open whether a
connection is listed as open; own lines in another order leave open whether the check
holds.  A check holds exactly if the expected triple is one of those in the columns of
the own lines, and a connection is open exactly if one of these lines has the marker,
with or without columns.  No line and no row is that of two peers.
-/
theorem verdicts_isolated (t : Target) :
    (∀ before after : String,
      ReflTransGen t.ForeignChange (Text.lines before.toList) (Text.lines after.toList) →
        (∀ node expected, checkTags node (TagTable.parse before) t.fragment expected =
          checkTags node (TagTable.parse after) t.fragment expected) ∧
        (TagTable.parse before).hasOpen t.fragment = (TagTable.parse after).hasOpen t.fragment) ∧
    (∀ before after : String, (t.ownLines before).Perm (t.ownLines after) →
      (∀ node expected, (checkTags node (TagTable.parse before) t.fragment expected).isOk =
        (checkTags node (TagTable.parse after) t.fragment expected).isOk) ∧
      (TagTable.parse before).hasOpen t.fragment = (TagTable.parse after).hasOpen t.fragment) ∧
    (∀ text node expected, checkTags node (TagTable.parse text) t.fragment expected =
      if expected ∈ t.observed text then .ok ()
      else .error (.sequenceMismatch node t.fragment expected (t.observed text))) ∧
    (∀ text : String, (TagTable.parse text).hasOpen t.fragment = true ↔
      ∃ line ∈ Text.lines text.toList, (∃ word ∈ Text.words line, openMarker <+: word) ∧
        t.isShownBy line = true) ∧
    (∀ other : Target,
      (∃ line, t.isShownBy line = true ∧ other.isShownBy line = true) ∨
        (∃ table : TagTable, ∃ r ∈ table.rowsOf t.fragment, r ∈ table.rowsOf other.fragment) →
      other = t) := by
  refine ⟨fun before after h => ?_, fun before after h => ?_, checkTags_parse t, fun text => ?_,
    fun other h => ?_⟩
  · have hown : t.ownLines before = t.ownLines after := foreignChanges_iff.mp h
    have hobserved : t.observed before = t.observed after := by rw [observed, hown, observed]
    exact ⟨fun node expected => by rw [checkTags_parse, checkTags_parse, hobserved],
      by rw [TagTable.hasOpen_parse, TagTable.hasOpen_parse, hown]⟩
  · refine ⟨isOk_checkTags_of_perm h, ?_⟩
    rw [TagTable.hasOpen_parse, TagTable.hasOpen_parse]
    exact h.any_eq
  · rw [TagTable.hasOpen_parse, ownLines]
    simp only [List.any_eq_true, List.mem_filter, showsOpen, List.isPrefixOf_iff_prefix]
    constructor
    · rintro ⟨line, ⟨hline, hshown⟩, hopen⟩
      exact ⟨line, hline, hopen, hshown⟩
    · rintro ⟨line, hline, hopen, hshown⟩
      exact ⟨line, ⟨hline, hshown⟩, hopen⟩
  · rcases h with ⟨line, hline, hother⟩ | ⟨table, r, hr, hother⟩
    · exact eq_of_isShownBy hother hline
    · exact eq_of_isOf (List.mem_filter.mp hother).2 (List.mem_filter.mp hr).2

/-- A row of another peer takes the place of a remark. -/
theorem verdicts_isolated_sample :
    let own := "      1        2        3  00:00:0a"
    let expected : SeqTriple := ⟨1, 2, 3⟩
    let before := TagTable.parse ("last update: never\n" ++ own)
    let after := TagTable.parse ("      4        5        6  98:ed:5c:00:00:0b  OPEN\n" ++ own)
    (∀ node, checkTags node before "00:00:0a" expected =
      checkTags node after "00:00:0a" expected) ∧
      before.hasOpen "00:00:0a" = after.hasOpen "00:00:0a" := by
  have hedit := (verdicts_isolated ⟨⟨0, 0, 0x0a⟩⟩).1
    "last update: never\n      1        2        3  00:00:0a"
    "      4        5        6  98:ed:5c:00:00:0b  OPEN\n      1        2        3  00:00:0a"
    (.single (ForeignChange.edit [] (by decide +kernel) (by decide +kernel)))
  exact ⟨fun node => hedit.1 node _, hedit.2⟩

end Target

end TtpConformance
