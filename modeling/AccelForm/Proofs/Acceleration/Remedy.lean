import AccelForm.Proofs.Acceleration.Check
import AccelForm.Proofs.TimeRange.Measure
/-
  Values without a problem

  Every setting has a value with which it has no problem, whatever the other
  settings are (`not_mem_problems_insert_remedy`). For most settings that is
  the empty text, and a switch can be turned off. The backfill range is checked
  against the summary range: one of no time is never the longer one, as no
  range counts as negative (`TimeRange.magnitude_span`).
-/

namespace AccelForm

/-! ## A value without a problem -/

/-- A value with which a setting has no problem, whatever the other settings are. -/
def Setting.remedy : Setting → Json
  | .enabled | .manualRebuilds | .pollBucketsUntilMaxtime => flagValue false
  | .backfillTime => .string "-0s"
  | _ => .string ""

namespace Bag

theorem setting?_insert (b : Bag) (s : Setting) (value : Json) :
    (b.insert s.attributeName value).setting? s = some value := by
  rw [setting?, get?_insert, if_pos rfl]

theorem enabled?_insert_remedy (b : Bag) :
    (b.insert Setting.enabled.attributeName Setting.enabled.remedy).enabled? = some false := by
  rw [enabled?, setting?_insert]
  rfl

/-- A backfill range of no time is well formed and reaches back no farther than any summary range. -/
theorem backfillProblem?_of_no_time {b : Bag}
    (h : b.setting? .backfillTime = some (.string "-0s")) :
    b.backfillProblem? = none := by
  have htext : b.backfillText = "-0s" := by
    simp [backfillText, settingText, h, valueText]
  have hvalid : TimeRange.isValid "-0s" = true := by decide
  unfold backfillProblem?
  simp [htext, TimeRange.span_no_time, hvalid, (TimeRange.magnitude_span _).not_zero_above]

theorem problemAt?_insert_remedy (b : Bag) (s : Setting) :
    (b.insert s.attributeName s.remedy).problemAt? s = none := by
  have hs : (b.insert s.attributeName s.remedy).setting? s = some s.remedy :=
    b.setting?_insert s s.remedy
  have htext : (b.insert s.attributeName s.remedy).settingText s = valueText (some s.remedy) := by
    rw [settingText, hs]
  cases s with
  | enabled => rfl
  | earliestTime =>
    rw [problemAt?, summaryProblem?, htext]
    rfl
  | backfillTime => exact backfillProblem?_of_no_time hs
  | maxTime =>
    rw [problemAt?, maxTimeProblem?, hs]
    rfl
  | maxConcurrent =>
    rw [problemAt?, maxConcurrentProblem?, hs]
    rfl
  | manualRebuilds =>
    rw [problemAt?, manualRebuildsProblem?, hs]
    rfl
  | schedulePriority =>
    rw [problemAt?, priorityProblem?, htext]
    rfl
  | pollBucketsUntilMaxtime =>
    rw [problemAt?, pollProblem?, hs]
    rfl

theorem not_mem_problems_insert_remedy (b : Bag) (s : Setting) :
    s ∉ (b.insert s.attributeName s.remedy).problems.map Problem.setting := by
  intro hm
  obtain ⟨p, hp, hsetting⟩ := List.mem_map.1 hm
  unfold problems at hp
  split at hp
  · next hnone =>
    -- that the switch cannot be read is a problem of the switch, which now can be read
    rw [List.mem_singleton.1 hp] at hsetting
    obtain rfl : Setting.enabled = s := hsetting
    rw [enabled?_insert_remedy] at hnone
    cases hnone
  · cases hp
  · rw [mem_detailProblems, hsetting, problemAt?_insert_remedy] at hp
    cases hp

end Bag

end AccelForm
