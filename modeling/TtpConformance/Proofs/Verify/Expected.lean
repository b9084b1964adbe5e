import Mathlib.Data.List.Nodup
import TtpConformance.Proofs.Status.Table
import TtpConformance.Proofs.Verify.Isolation

/-!
# One row meets one expectation

After each exchange the numbers of a connection are expected to have moved by a fixed
offset from the baseline.  The sums are capped at the greatest 64-bit number.  A table
that is printed with one row of the peer passes a check exactly if that row shows the
capped sums, whatever stands in the rows of others.

A row that is left over from an earlier exchange must not pass the check of the next one.
It cannot, as long as the expectations of the baseline are different from each other.
They are up to `2 ^ 64 - 3`: the own number and the peer's receive number move by two
at most, and these two alone tell the offsets apart.  Above it, the first and the second
transmission are expected to show the same numbers.

## Main definitions

* `SeqOffset.exchanges` — the four offsets.
* `TableRow.IsOf` — the rows of a target.

## Main statements

* `toNat_saturatingAdd`, `SeqTriple.eq_expected_iff` — the capped sums.
* `SeqOffset.nodup_expected_iff` — up to which baseline expectations differ.
* `Target.observed_tableText` — the triples of a target in a printed table.
* `checkTags_exact` — what passes a check.
-/

namespace TtpConformance

/-! ## Capped sums -/

theorem toNat_saturatingAdd (a b : UInt64) :
    (saturatingAdd a b).toNat = min (a.toNat + b.toNat) (2 ^ 64 - 1) := by
  have hcap : min (a.toNat + b.toNat) (UInt64.size - 1) < UInt64.size := by
    have hsize : 0 < UInt64.size := by decide
    omega
  exact Nat.mod_eq_of_lt hcap

/-- A triple is the expected one if each number is the capped sum of its part. -/
theorem SeqTriple.eq_expected_iff {t : SeqTriple} {b : UInt64} {offset : SeqOffset} :
    t = .expected b offset ↔
      t.own.toNat = min (b.toNat + offset.own.toNat) (2 ^ 64 - 1) ∧
      t.peerTx.toNat = min (b.toNat + offset.peerTx.toNat) (2 ^ 64 - 1) ∧
      t.peerRx.toNat = min (b.toNat + offset.peerRx.toNat) (2 ^ 64 - 1) := by
  obtain ⟨own, peerTx, peerRx⟩ := t
  simp only [SeqTriple.expected, SeqTriple.mk.injEq, ← UInt64.toNat_inj, toNat_saturatingAdd]

/-! ## Expectations of a baseline -/

namespace SeqOffset

/-- What is expected after the exchanges of a run. -/
def exchanges : List SeqOffset := [firstTx, secondTx, firstRx, secondRx]

/-- The own number and the receive number move by two at most. -/
theorem own_peerRx_le_two : ∀ o ∈ exchanges, o.own.toNat ≤ 2 ∧ o.peerRx.toNat ≤ 2 := by
  decide

/-- These two numbers tell the offsets apart. -/
theorem eq_of_own_of_peerRx : ∀ o ∈ exchanges, ∀ o' ∈ exchanges,
    o.own.toNat = o'.own.toNat → o.peerRx.toNat = o'.peerRx.toNat → o = o' := by
  decide

/-- Sums that are not capped show their offset. -/
theorem eq_of_expected_eq {b : UInt64} (hb : b.toNat ≤ 2 ^ 64 - 3) {o o' : SeqOffset}
    (ho : o ∈ exchanges) (ho' : o' ∈ exchanges)
    (h : SeqTriple.expected b o = SeqTriple.expected b o') : o = o' := by
  obtain ⟨hown, -, hrx⟩ := SeqTriple.eq_expected_iff.mp h
  simp only [SeqTriple.expected, toNat_saturatingAdd] at hown hrx
  have hle := own_peerRx_le_two o ho
  have hle' := own_peerRx_le_two o' ho'
  exact eq_of_own_of_peerRx o ho o' ho' (by omega) (by omega)

/-- The expectations of a baseline are different exactly up to two below the greatest
number. -/
theorem nodup_expected_iff (b : UInt64) :
    (exchanges.map (SeqTriple.expected b)).Nodup ↔ b.toNat ≤ 2 ^ 64 - 3 := by
  constructor
  · intro hnodup
    by_contra hb
    -- both sums of the transmit number and of the receive number are capped
    have hsame : SeqTriple.expected b firstTx = SeqTriple.expected b secondTx := by
      have hlt := b.toNat_lt
      rw [SeqTriple.eq_expected_iff]
      simp only [SeqTriple.expected, toNat_saturatingAdd, firstTx, secondTx,
        UInt64.reduceToNat, true_and]
      omega
    have hoffsets : firstTx = secondTx :=
      List.inj_on_of_nodup_map hnodup (by decide) (by decide) hsame
    exact absurd hoffsets (by decide)
  · intro hb
    have hexchanges : exchanges.Nodup := by decide
    exact hexchanges.map_on fun o ho o' ho' => eq_of_expected_eq hb ho ho'

end SeqOffset

/-! ## Rows of a target -/

/-- A row is of a target if the octets of its address, in either case, end in the target's. -/
def TableRow.IsOf (t : Target) (r : TableRow) : Prop :=
  ∃ octets : List UInt8, Status.lowerCase r.address.text = (Address.joinOctets ":" octets).toList ∧
    t.octets.toList <:+ octets

/-- What such a row says is found under the target's fragment. -/
theorem TableRow.isOf_record_iff (t : Target) (r : TableRow) :
    r.record.isOf t.fragment.toList = true ↔ r.IsOf t := by
  have hmatches : ∀ octets : List UInt8, octets ≠ [] →
      Status.lowerCase r.address.text = (Address.joinOctets ":" octets).toList →
      (r.record.isOf t.fragment.toList = true ↔ t.octets.toList <:+ octets) := by
    intro octets hne htext
    rw [← Status.addressMatches_joinOctets hne t.octets_ne_nil, ← htext]
    rfl
  constructor
  · intro h
    obtain ⟨octets, hlength, htext⟩ := Status.exists_octets_of_isAddress r.address.isAddress_text
    have hne : octets ≠ [] := by
      rintro rfl
      simp at hlength
    exact ⟨octets, htext, (hmatches octets hne htext).mp h⟩
  · rintro ⟨octets, htext, hsuffix⟩
    have hne : octets ≠ [] := by
      rintro rfl
      exact t.octets_ne_nil (List.suffix_nil.mp hsuffix)
    exact (hmatches octets hne htext).mpr hsuffix

namespace Target

variable (t : Target)

/-- The triples of the rows of a target. -/
def triplesOf (table : TagTable) : List SeqTriple :=
  (table.records.filter (·.isOf t.fragment.toList)).flatMap (·.windows)

theorem triplesOf_parseLine (line : List Char) :
    t.triplesOf (TagTable.parseLine line) =
      if t.isShownBy line then sequenceWindows line else [] := by
  rw [triplesOf, TagTable.filter_records_parseLine]
  by_cases hshown : t.isShownBy line <;> simp [hshown, TagTable.windows_parseLine]

/-- Filtering the lines of a target comes to reading its rows. -/
theorem flatMap_ownLines (lines : List (List Char)) :
    (lines.filter t.isShownBy).flatMap sequenceWindows =
      lines.flatMap fun line => t.triplesOf (TagTable.parseLine line) := by
  induction lines with
  | nil => rfl
  | cons line lines ih =>
      rw [List.flatMap_cons, triplesOf_parseLine, ← ih]
      by_cases hshown : t.isShownBy line <;> simp [hshown]

/-- The triples of a target in a printed table are those of its rows. -/
theorem observed_tableText (lines : List TableLine) :
    t.observed (TableLine.tableText lines) =
      lines.flatMap fun l => t.triplesOf { records := l.record?.toList } := by
  rw [observed, ownLines, flatMap_ownLines, TableLine.flatMap_lines_tableText lines t.triplesOf rfl]

/-- Rows of others leave no triple. -/
theorem flatMap_windows_eq_nil {lines : List TableLine}
    (h : ∀ r, TableLine.row r ∈ lines → ¬ r.IsOf t) :
    (lines.flatMap fun l => t.triplesOf { records := l.record?.toList }) = [] := by
  rw [List.flatMap_eq_nil_iff]
  intro l hl
  cases l with
  | remark m => rfl
  | row r =>
      have hother : ¬ r.record.isOf t.fragment.toList = true := by
        rw [r.isOf_record_iff t]
        exact h r hl
      simp [triplesOf, TableLine.record?, hother]

/-- A table with one row of a target shows that row's triple alone. -/
theorem observed_of_one_row {above below : List TableLine} {r : TableRow} (hrow : r.IsOf t)
    (hothers : ∀ other, TableLine.row other ∈ above ++ below → ¬ other.IsOf t) :
    t.observed (TableLine.tableText (above ++ .row r :: below)) = [r.triple] := by
  have habove := t.flatMap_windows_eq_nil fun other h => hothers other (List.mem_append_left _ h)
  have hbelow := t.flatMap_windows_eq_nil fun other h => hothers other (List.mem_append_right _ h)
  have hown : r.record.isOf t.fragment.toList = true := (r.isOf_record_iff t).mpr hrow
  rw [observed_tableText, List.flatMap_append, List.flatMap_cons, habove, hbelow]
  simp only [triplesOf, TableLine.record?, Option.toList_some, List.filter_cons_of_pos hown,
    List.filter_nil]
  rfl

end Target

/-! ## Checks -/

/--
What passes a check.  In a printed table with one row of the peer, among any rows of others,
a check passes exactly if each number of that row is the sum of the baseline and its part
of the offset, capped at `2 ^ 64 - 1`; a check that fails reports that row and no other.
The four expectations are different exactly for baselines up to `2 ^ 64 - 3`, and for
those the row passes no check but one.
-/
theorem checkTags_exact (t : Target) (node : String) (b : UInt64) (above below : List TableLine)
    (r : TableRow) (hrow : r.IsOf t)
    (hothers : ∀ other, TableLine.row other ∈ above ++ below → ¬ other.IsOf t) :
    let verdict (offset : SeqOffset) : Verdict :=
      checkTags node (TagTable.parse (TableLine.tableText (above ++ .row r :: below))) t.fragment
        (.expected b offset)
    (∀ offset, verdict offset = .ok () ↔
      r.triple.own.toNat = min (b.toNat + offset.own.toNat) (2 ^ 64 - 1) ∧
      r.triple.peerTx.toNat = min (b.toNat + offset.peerTx.toNat) (2 ^ 64 - 1) ∧
      r.triple.peerRx.toNat = min (b.toNat + offset.peerRx.toNat) (2 ^ 64 - 1)) ∧
    (∀ offset failure, verdict offset = .error failure →
      failure = .sequenceMismatch node t.fragment (.expected b offset) [r.triple]) ∧
    ((SeqOffset.exchanges.map (SeqTriple.expected b)).Nodup ↔ b.toNat ≤ 2 ^ 64 - 3) ∧
    (b.toNat ≤ 2 ^ 64 - 3 → ∀ o ∈ SeqOffset.exchanges, ∀ o' ∈ SeqOffset.exchanges,
      verdict o = .ok () → verdict o' = .ok () → o = o') := by
  intro verdict
  have hverdict : ∀ offset, verdict offset = if r.triple = .expected b offset then .ok () else
      .error (.sequenceMismatch node t.fragment (.expected b offset) [r.triple]) := by
    intro offset
    have hobserved := t.observed_of_one_row hrow hothers
    simp only [verdict, checkTags_parse, hobserved, List.mem_singleton, eq_comm]
  have hpasses : ∀ offset, verdict offset = .ok () ↔ r.triple = .expected b offset := by
    intro offset
    rw [hverdict]
    by_cases hshown : r.triple = .expected b offset <;> simp [hshown]
  refine ⟨fun offset => ?_, fun offset failure hfails => ?_, SeqOffset.nodup_expected_iff b,
    fun hb o ho o' ho' hpass hpass' => ?_⟩
  · rw [hpasses, SeqTriple.eq_expected_iff]
  · rw [hverdict] at hfails
    by_cases hshown : r.triple = .expected b offset
    · simp [hshown] at hfails
    · rw [if_neg hshown] at hfails
      exact (Except.error.inj hfails).symm
  · have hsame := ((hpasses o).mp hpass).symm.trans ((hpasses o').mp hpass')
    exact SeqOffset.eq_of_expected_eq hb ho ho' hsame

/-- The row of a peer after the first transmission. -/
def TableRow.ownSample : TableRow :=
  .plain ⟨41, 43, 42⟩ ⟨["00".toList, "00".toList, "0A".toList], by decide, by decide⟩

/-- The row of another peer. -/
def TableRow.otherSample : TableRow := .plain ⟨41, 44, 43⟩ .longSample

/-- The row of one peer after the first transmission, below that of another peer. -/
theorem checkTags_exact_sample :
    let table := TagTable.parse ("     41       44       43  98:ED:5C:00:00:0B\n" ++
      "     41       43       42  00:00:0A")
    (checkTags "node-0b" table "00:00:0a" (.expected 41 .firstTx) = .ok ()) ∧
      (checkTags "node-0b" table "00:00:0a" (.expected 41 .secondTx) ≠ .ok ()) := by
  have hother : ¬ TableRow.otherSample.IsOf ⟨⟨0, 0, 0x0a⟩⟩ := by
    rw [← TableRow.isOf_record_iff]
    decide +kernel
  have hown : TableRow.ownSample.IsOf ⟨⟨0, 0, 0x0a⟩⟩ := by
    rw [← TableRow.isOf_record_iff]
    decide +kernel
  have hexact := checkTags_exact ⟨⟨0, 0, 0x0a⟩⟩ "node-0b" 41 [.row .otherSample] []
    .ownSample hown (by
    intro r hr
    simp only [List.append_nil, List.mem_singleton, TableLine.row.injEq] at hr
    exact hr ▸ hother)
  have htext : TableLine.tableText ([.row .otherSample] ++ .row .ownSample :: []) =
      "     41       44       43  98:ED:5C:00:00:0B\n" ++ "     41       43       42  00:00:0A" := by
    decide +kernel
  have hfragment : Target.fragment ⟨⟨0, 0, 0x0a⟩⟩ = "00:00:0a" := by decide +kernel
  rw [htext, hfragment] at hexact
  have hfirst := (hexact.1 .firstTx).mpr (by decide)
  refine ⟨hfirst, fun hsecond => ?_⟩
  have hsame := hexact.2.2.2 (by decide) _ (by decide) _ (by decide) hfirst hsecond
  exact absurd hsame (by decide)

end TtpConformance
