import TtpConformance.CommandLine.Execute
import TtpConformance.Proofs.Scenario.Schedule
import TtpConformance.Proofs.Text.Numeral

/-!
# Printed lines

Whoever reads what a command line prints tells its lines by the way they start: a scenario
is reported with its outcome in front, a failed pair is indented and marked, and counts come
first in the lines that have them.  No other line starts in these ways, so the marks can be
counted.

## Main definitions

* `hasTag` — a line that starts with a mark.
* `failLine`, `countLine` — the line of a failed pair, and that of all pairs.
* `RunPrinted`, `CrossPrinted` — what a run and a cross run print.

## Main statements

* `RunReport.countP_lines` — scenarios of one kind are counted by their marks.
* `filter_crossLines`, `exists_countLine_mem_iff` — the failed pairs of a cross run, and whether
  all of its pairs are counted.
* `runPrinted_lines`, `crossPrinted_crossLines` — the lines of reports.
-/

namespace TtpConformance

/-! ## Marks -/

/-- Whether a line starts with a mark. -/
def hasTag (tag line : String) : Bool := tag.toList.isPrefixOf line.toList

theorem hasTag_iff {tag line : String} : hasTag tag line = true ↔ tag.toList <+: line.toList :=
  List.isPrefixOf_iff_prefix

/-- A line that starts with more than the mark has it. -/
theorem hasTag_append_of_prefix {tag front : String} (h : tag.toList <+: front.toList)
    (rest : String) : hasTag tag (front ++ rest) = true := by
  rw [hasTag_iff, String.toList_append]
  exact h.trans (List.prefix_append _ _)

theorem hasTag_append (tag rest : String) : hasTag tag (tag ++ rest) = true :=
  hasTag_append_of_prefix (List.prefix_refl _) rest

/-- A line that starts in another way does not have the mark. -/
theorem hasTag_append_of_ne {tag front : String}
    (hle : front.toList.length ≤ tag.toList.length)
    (hne : tag.toList.take front.toList.length ≠ front.toList) (rest : String) :
    hasTag tag (front ++ rest) = false := by
  rw [← Bool.not_eq_true, hasTag_iff, String.toList_append]
  intro hprefix
  apply hne
  rw [List.prefix_iff_eq_take.mp hprefix, List.take_take, Nat.min_eq_left hle, List.take_left]

/-- A line that starts with a number does not have a mark that is none. -/
theorem hasTag_decimal {tag : String} {c : Char} (hhead : tag.toList.head? = some c)
    (hc : Text.isDigit c = false) (n : Nat) (rest : String) :
    hasTag tag (Text.decimal n ++ rest) = false := by
  rw [← Bool.not_eq_true, hasTag_iff, String.toList_append, Text.decimal, String.toList_ofList]
  intro hprefix
  obtain ⟨d, ds, hdigits⟩ := List.exists_cons_of_ne_nil (Text.digits_ne_nil n)
  obtain ⟨tail, htag⟩ := List.head?_eq_some_iff.mp hhead
  rw [htag, hdigits, List.cons_append, List.cons_prefix_cons] at hprefix
  have hd : Text.isDigit d = true := Text.isDigit_of_mem_digits (hdigits ▸ List.mem_cons_self)
  rw [← hprefix.1, hc] at hd
  exact Bool.false_ne_true hd

/-! ## Lines of a run -/

/-- The mark of an outcome. -/
def ScenarioOutcome.tag : ScenarioOutcome → String
  | .passed => "PASS  "
  | .failed _ => "FAIL  "
  | .skipped _ => "SKIP  "

/-- A scenario's line starts with the mark of its outcome and its name. -/
theorem ScenarioReport.exists_line_eq (r : ScenarioReport) :
    ∃ rest, r.line = r.outcome.tag ++ (r.fullName ++ rest) := by
  unfold line
  cases r.outcome with
  | passed => exact ⟨"", by rw [String.append_empty]; rfl⟩
  | failed reason => exact ⟨": " ++ reason, by simp only [String.append_assoc]; rfl⟩
  | skipped reason => exact ⟨" (" ++ reason ++ ")", by simp only [String.append_assoc]; rfl⟩

/-- The marks tell the outcomes apart. -/
theorem ScenarioOutcome.hasTag_tag (outcome : ScenarioOutcome) (rest : String) :
    hasTag "PASS  " (outcome.tag ++ rest) = outcome.isPassed ∧
      hasTag "FAIL  " (outcome.tag ++ rest) = outcome.isFailed ∧
      hasTag "SKIP  " (outcome.tag ++ rest) = outcome.isSkipped := by
  cases outcome with
  | passed =>
      exact ⟨hasTag_append _ _, hasTag_append_of_ne (by decide) (by decide) _,
        hasTag_append_of_ne (by decide) (by decide) _⟩
  | failed =>
      simp only [tag]
      exact ⟨hasTag_append_of_ne (by decide) (by decide) _, hasTag_append _ _,
        hasTag_append_of_ne (by decide) (by decide) _⟩
  | skipped =>
      simp only [tag]
      exact ⟨hasTag_append_of_ne (by decide) (by decide) _,
        hasTag_append_of_ne (by decide) (by decide) _, hasTag_append _ _⟩

namespace RunReport

/-- Scenarios of one kind are counted by a mark that the lines of the others and the counts do
not have. -/
theorem countP_lines (report : RunReport) {tag : String} {p : ScenarioOutcome → Bool} {c : Char}
    (hmarks : ∀ (outcome : ScenarioOutcome) rest, hasTag tag (outcome.tag ++ rest) = p outcome)
    (hhead : tag.toList.head? = some c) (hc : Text.isDigit c = false) :
    report.lines.countP (hasTag tag) = report.scenarios.countP (p ·.outcome) := by
  have htext : hasTag tag report.text = false := by
    simp only [text, String.append_assoc]
    exact hasTag_decimal hhead hc _ _
  have hline : (hasTag tag ∘ ScenarioReport.line) = (p ·.outcome) := by
    funext r
    obtain ⟨rest, hrest⟩ := r.exists_line_eq
    rw [Function.comp_apply, hrest, hmarks]
  rw [lines, List.countP_append, List.countP_map, List.countP_singleton, htext, hline]
  rfl

/-- The lines of a run show how many scenarios have passed, have failed and were skipped. -/
theorem countP_tag_lines (report : RunReport) :
    report.lines.countP (hasTag "PASS  ") = report.passed ∧
      report.lines.countP (hasTag "FAIL  ") = report.failed ∧
      report.lines.countP (hasTag "SKIP  ") = report.skipped :=
  ⟨report.countP_lines (fun outcome rest => (outcome.hasTag_tag rest).1) rfl (by decide),
    report.countP_lines (fun outcome rest => (outcome.hasTag_tag rest).2.1) rfl (by decide),
    report.countP_lines (fun outcome rest => (outcome.hasTag_tag rest).2.2) rfl (by decide)⟩

end RunReport

/-! ## Lines of a cross run -/

/-- The line of a failed pair. -/
def failLine (pair : NodePair) : String := "  FAIL  " ++ pair.text

/-- The line that counts all pairs and those that have passed. -/
def countLine (passed total : Nat) : String :=
  Text.decimal passed ++ " of " ++ Text.decimal total ++ " pairs passed"

/-- Lines that do not count pairs: the head of a round, and the indented lines of pairs. -/
def IsRoundLine (line : String) : Prop := hasTag "round " line = true ∨ hasTag "  " line = true

theorem not_isRoundLine_countLine (passed total : Nat) : ¬ IsRoundLine (countLine passed total) := by
  have htag : ∀ {tag : String} {c : Char}, tag.toList.head? = some c → Text.isDigit c = false →
      hasTag tag (countLine passed total) = false := by
    intro tag c hhead hc
    simp only [countLine, String.append_assoc]
    exact hasTag_decimal hhead hc _ _
  have hround : hasTag "round " (countLine passed total) = false := htag rfl (by decide)
  have hindent : hasTag "  " (countLine passed total) = false := htag rfl (by decide)
  simp [IsRoundLine, hround, hindent]

section Lines

variable (settings : Settings) (cross : CrossSettings) (quiet : Bool)

/-- A pair's line is indented. -/
theorem PairResult.isRoundLine_line? {result : PairResult} {line : String}
    (h : result.line? settings cross quiet = some line) : IsRoundLine line := by
  right
  unfold line? at h
  split at h
  · obtain rfl := Option.some.inj h
    simp only [String.append_assoc]
    exact hasTag_append _ _
  · split at h
    · cases h
    · obtain rfl := Option.some.inj h
      exact hasTag_append_of_prefix (by decide) _
  · obtain rfl := Option.some.inj h
    exact hasTag_append_of_prefix (by decide) _

theorem RoundReport.isRoundLine_of_mem_lines {round : RoundReport} {line : String}
    (h : line ∈ round.lines settings cross quiet) : IsRoundLine line := by
  rcases List.mem_append.mp h with hhead | hpair
  · cases quiet with
    | true => cases hhead
    | false =>
        obtain rfl := List.mem_singleton.mp hhead
        exact .inl (hasTag_append _ _)
  · obtain ⟨result, -, hline⟩ := List.mem_filterMap.mp hpair
    exact result.isRoundLine_line? settings cross quiet hline

/-- The line of a pair has the mark of a failure exactly if the pair has failed. -/
theorem PairResult.filter_line? (result : PairResult) :
    (result.line? settings cross quiet).filter (hasTag "  FAIL  ") =
      if result.passed = some false then some (failLine result.pair) else none := by
  have hplan : ∀ rest, hasTag "  FAIL  " ("  " ++ (result.pair.text ++ rest)) = false := by
    intro rest
    have hnode : "  " ++ (result.pair.text ++ rest) = "  node-" ++ (Text.hexByte
        result.pair.initiator ++ (" <-> " ++ (nodeName result.pair.target ++ rest))) := by
      simp only [NodePair.text, nodeName, String.append_assoc]
      simp only [← String.append_assoc]
      rfl
    rw [hnode]
    exact hasTag_append_of_ne (by decide) (by decide) _
  unfold line?
  cases hpassed : result.passed with
  | none =>
      have hline := hplan ("  " ++ pairScript settings cross result.pair)
      simp only [String.append_assoc]
      simp [hline]
  | some passed =>
      cases passed with
      | false =>
          have hfail : hasTag "  FAIL  " ("  FAIL  " ++ result.pair.text) = true :=
            hasTag_append _ _
          simp [hfail, failLine]
      | true =>
          have hpass : hasTag "  FAIL  " ("  PASS  " ++ result.pair.text) = false :=
            hasTag_append_of_ne (by decide) (by decide) _
          cases quiet <;> simp [hpass]

/-- In the lines of a round, the failed pairs are marked, in order. -/
theorem RoundReport.filter_lines (round : RoundReport) :
    (round.lines settings cross quiet).filter (hasTag "  FAIL  ") =
      (round.results.filter (·.passed == some false)).map (failLine ·.pair) := by
  have hhead : (if quiet then [] else ["round " ++ Text.decimal round.round]).filter
      (hasTag "  FAIL  ") = [] := by
    have htag : hasTag "  FAIL  " ("round " ++ Text.decimal round.round) = false :=
      hasTag_append_of_ne (by decide) (by decide) _
    cases quiet <;> simp [htag]
  rw [lines, List.filter_append, hhead, List.nil_append, List.filter_filterMap]
  simp only [PairResult.filter_line?]
  induction round.results with
  | nil => rfl
  | cons result results ih =>
      by_cases hfailed : result.passed = some false
      · simp [hfailed, ih]
      · simp [hfailed, ih]

/-- In what a cross run prints, the failed pairs are marked, in order, and nothing else is. -/
theorem filter_crossLines (rounds : List RoundReport) :
    (crossLines settings cross quiet rounds).filter (hasTag "  FAIL  ") =
      ((rounds.flatMap (·.results)).filter (·.passed == some false)).map (failLine ·.pair) := by
  have hcount : (if quiet || cross.dryRun then [] else
      [countLine (totalPairs rounds - failedPairs rounds) (totalPairs rounds)]).filter
        (hasTag "  FAIL  ") = [] := by
    have htag : ∀ passed total, hasTag "  FAIL  " (countLine passed total) = false := by
      intro passed total
      simp only [countLine, String.append_assoc]
      exact hasTag_decimal rfl (by decide) _ _
    cases quiet || cross.dryRun <;> simp [htag]
  have hlines : crossLines settings cross quiet rounds =
      rounds.flatMap (RoundReport.lines settings cross quiet) ++
        if quiet || cross.dryRun then [] else
          [countLine (totalPairs rounds - failedPairs rounds) (totalPairs rounds)] := rfl
  rw [hlines, List.filter_append, hcount, List.append_nil, List.filter_flatMap]
  simp only [RoundReport.filter_lines, List.filter_flatMap, List.map_flatMap]

theorem failedPairs_eq (rounds : List RoundReport) :
    failedPairs rounds = ((crossLines settings cross quiet rounds).filter
      (hasTag "  FAIL  ")).length := by
  rw [filter_crossLines, List.length_map, failedPairs, List.countP_eq_length_filter]

/-- All pairs are counted, those that have failed apart, unless it is a dry run or lines are
left out; then they are not counted. -/
theorem exists_countLine_mem_iff (rounds : List RoundReport) :
    (∃ passed total, countLine passed total ∈ crossLines settings cross quiet rounds) ↔
      quiet = false ∧ cross.dryRun = false := by
  rw [← Bool.or_eq_false_iff]
  constructor
  · rintro ⟨passed, total, hline⟩
    rcases List.mem_append.mp hline with hround | hcount
    · obtain ⟨round, -, hmem⟩ := List.mem_flatMap.mp hround
      exact absurd (round.isRoundLine_of_mem_lines settings cross quiet hmem)
        (not_isRoundLine_countLine passed total)
    · by_contra hleft
      rw [Bool.not_eq_false] at hleft
      simp [hleft] at hcount
  · intro hleft
    refine ⟨totalPairs rounds - failedPairs rounds, totalPairs rounds, List.mem_append_right _ ?_⟩
    rw [hleft]
    exact List.mem_singleton.mpr rfl

end Lines

/-! ## What is printed -/

/-- What a run prints: an entry for each scenario, in order, with the mark of its outcome, and then
how many entries there are with each mark. -/
structure RunPrinted (entries : List ScheduleEntry) (stdout : List String) : Prop where
  marked : ∀ entry ∈ entries,
    hasTag (entry.outcome.tag ++ entry.report.fullName) entry.report.line = true
  failures : stdout.countP (hasTag "FAIL  ") = entries.countP (·.outcome.isFailed)
  counted : ∃ passed failed skipped : Nat,
    stdout = entries.map (·.report.line) ++
      [Text.decimal passed ++ " passed, " ++ Text.decimal failed ++ " failed, " ++
        Text.decimal skipped ++ " skipped"] ∧
    stdout.countP (hasTag "PASS  ") = passed ∧ stdout.countP (hasTag "FAIL  ") = failed ∧
    stdout.countP (hasTag "SKIP  ") = skipped ∧ passed + failed + skipped = entries.length

theorem runPrinted_lines (entries : List ScheduleEntry) :
    RunPrinted entries (RunReport.lines ⟨entries.map ScheduleEntry.report⟩) := by
  let report : RunReport := ⟨entries.map ScheduleEntry.report⟩
  obtain ⟨hpassed, hfailed, hskipped⟩ := report.countP_tag_lines
  refine ⟨fun entry _ => ?_, ?_, report.passed, report.failed, report.skipped, ?_, hpassed,
    hfailed, hskipped, ?_⟩
  · obtain ⟨rest, hline⟩ := entry.report.exists_line_eq
    rw [hline, ← String.append_assoc]
    exact hasTag_append _ _
  · rw [hfailed, RunReport.failed, List.countP_map]
    rfl
  · rw [RunReport.lines, List.map_map]
    rfl
  · rw [report.passed_add_failed_add_skipped, List.length_map]

/-- What a cross run prints: the failed pairs are marked, in order, and the others are not.  The
pairs are counted unless it is a dry run or lines are left out; then those that have passed
are all but those with a mark. -/
structure CrossPrinted (quiet dryRun : Bool) (results : List PairResult) (stdout : List String) :
    Prop where
  failures : stdout.filter (hasTag "  FAIL  ") =
    (results.filter (·.passed == some false)).map (failLine ·.pair)
  counts : (∃ passed total, countLine passed total ∈ stdout) ↔ quiet = false ∧ dryRun = false
  counted : quiet = false → dryRun = false →
    ∃ passed, stdout.getLast? = some (countLine passed results.length) ∧
      passed + (stdout.filter (hasTag "  FAIL  ")).length = results.length

theorem crossPrinted_crossLines (settings : Settings) (cross : CrossSettings) (quiet : Bool)
    (rounds : List RoundReport) :
    CrossPrinted quiet cross.dryRun (rounds.flatMap (·.results))
      (crossLines settings cross quiet rounds) := by
  refine ⟨filter_crossLines settings cross quiet rounds,
    exists_countLine_mem_iff settings cross quiet rounds, fun hquiet hdry => ?_⟩
  have hfailed : failedPairs rounds ≤ totalPairs rounds := List.countP_le_length
  refine ⟨totalPairs rounds - failedPairs rounds, ?_, ?_⟩
  · rw [crossLines, hquiet, hdry]
    exact List.getLast?_concat
  · rw [← failedPairs_eq]
    exact Nat.sub_add_cancel hfailed

end TtpConformance
