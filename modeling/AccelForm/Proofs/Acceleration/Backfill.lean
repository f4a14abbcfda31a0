import AccelForm.Proofs.Acceleration.Check
import AccelForm.Proofs.TimeRange.Length
/-
  The backfill range

  The backfill range may not reach back farther than the summary range. The
  check compares spans in days, which have been rounded twice over; what it
  finds is nevertheless what whole seconds say, as long as the counts are
  below 2 ^ 32 (`backfill_exact`). So one length in two spellings passes the
  check whichever of them is the backfill range.
-/

namespace AccelForm.Bag

open TimeRange

variable {b : Bag}

/-- The message is that of one problem only. -/
theorem message_mem_iff {ps : List Problem} :
    "Backfill Range should be more recent than Summary Range" ∈ ps.map Problem.message ↔
      .backfillBeforeSummary ∈ ps := by
  rw [List.mem_map]
  constructor
  · intro ⟨p, hp, hmessage⟩
    cases p with
    | backfillBeforeSummary => exact hp
    | _ => exact absurd hmessage (by decide)
  · intro h
    exact ⟨.backfillBeforeSummary, h, rfl⟩

/-- With acceleration on and two well-formed ranges, the check is about their spans. -/
theorem mem_problems_iff_above (hon : b.enabled? = some true)
    (hsummary : isValid (b.settingText .earliestTime) = true)
    (hbackfill : isValid (b.settingText .backfillTime) = true) :
    .backfillBeforeSummary ∈ b.problems ↔
      (span (b.settingText .backfillTime)).above (span (b.settingText .earliestTime)) = true := by
  have hne : b.settingText .backfillTime ≠ "" := by
    intro hempty
    rw [hempty] at hbackfill
    exact absurd hbackfill (by decide)
  have htext : b.backfillText = b.settingText .backfillTime := by simp [backfillText, hne]
  rw [problems_of_on hon, mem_detailProblems, Problem.setting, problemAt?,
    backfillProblem?_of_rangeOk (fun _ => hsummary) (fun _ => hbackfill), htext]
  simp

/-- The check of the backfill range is exact: for well-formed ranges, each a count of units, it
finds a problem if and only if the backfill range is the longer one in seconds. -/
theorem backfill_exact :
    (∀ s : String, isValid s = true ↔ s = allTime ∨ ∃ digits unit, Spelled s digits unit) ∧
    ∀ (b : Bag) (ds es : List Char) (u v : TimeUnit), b.enabled? = some true →
      Spelled (b.settingText .earliestTime) ds u → Spelled (b.settingText .backfillTime) es v →
      (∀ c ∈ ds, c.isDigit = true) → (∀ c ∈ es, c.isDigit = true) →
      Text.decimalValue ds < 2 ^ 32 → Text.decimalValue es < 2 ^ 32 →
      ("Backfill Range should be more recent than Summary Range" ∈
          b.problems.map Problem.message ↔
        Text.decimalValue ds * u.seconds < Text.decimalValue es * v.seconds) := by
  refine ⟨fun s => isValid_iff, ?_⟩
  intro b ds es u v hon hsummary hbackfill hds hes hn hm
  rw [message_mem_iff, mem_problems_iff_above hon hsummary.isValid hbackfill.isValid,
    above_span_iff hsummary.leads hbackfill.leads hds hes hn hm]

/-- Settings that turn acceleration on, with a summary range and a backfill range. -/
def ranges (summary backfill : String) : Bag :=
  Bag.ofList [("acceleration", .bool true), ("acceleration.earliest_time", .string summary),
    ("acceleration.backfill_time", .string backfill)]

theorem backfill_day_in_hours :
    ("Backfill Range should be more recent than Summary Range" ∉
        (ranges "-1d" "-24hours").problems.map Problem.message ∧
      "Backfill Range should be more recent than Summary Range" ∉
        (ranges "-24hours" "-1d").problems.map Problem.message) ∧
    "Backfill Range should be more recent than Summary Range" ∈
      (ranges "-1d" "-86401s").problems.map Problem.message := by
  have hone : ∀ c ∈ ['1'], c.isDigit = true := List.all_eq_true.1 (by decide)
  have hmany : ∀ c ∈ ['2', '4'], c.isDigit = true := List.all_eq_true.1 (by decide)
  have hmore : ∀ c ∈ ['8', '6', '4', '0', '1'], c.isDigit = true := List.all_eq_true.1 (by decide)
  have hday : Spelled "-1d" ['1'] .day :=
    ⟨"d", by decide, rfl, by decide, List.all_eq_true.1 (by decide)⟩
  have hhours : Spelled "-24hours" ['2', '4'] .hour :=
    ⟨"hours", by decide, rfl, by decide, List.all_eq_true.1 (by decide)⟩
  have hseconds : Spelled "-86401s" ['8', '6', '4', '0', '1'] .second :=
    ⟨"s", by decide, rfl, by decide, List.all_eq_true.1 (by decide)⟩
  have hexact := backfill_exact.2
  refine ⟨⟨?_, ?_⟩, ?_⟩
  · rw [hexact (ranges "-1d" "-24hours") _ _ _ _ (by decide) hday hhours hone hmany (by decide)
      (by decide)]
    decide
  · rw [hexact (ranges "-24hours" "-1d") _ _ _ _ (by decide) hhours hday hmany hone (by decide)
      (by decide)]
    decide
  · rw [hexact (ranges "-1d" "-86401s") _ _ _ _ (by decide) hday hseconds hone hmore (by decide)
      (by decide)]
    decide

end AccelForm.Bag
