import AccelForm.Acceleration.Problem
import Mathlib.Data.List.Basic
/-
  Checks setting by setting

  A problem belongs to one setting, and the check of a setting reads that
  setting alone. The backfill range is the exception: its check reads the
  summary range too (`problemAt?_congr` excludes it, `backfillProblem?_congr`
  has its two settings). The switch that turns acceleration on decides whether
  the other checks are made at all. For each check there is a lemma that says
  what it asks for.
-/

namespace AccelForm

/-- A setting other than the backfill range has only one kind of problem. -/
theorem Problem.eq_of_setting_eq {p q : Problem} (h : p.setting = q.setting)
    (hp : p.setting ≠ .backfillTime) : p = q := by
  cases p <;> cases q <;> simp [setting] at h hp ⊢

namespace Bag
variable {a b : Bag} {s : Setting} {p : Problem}

/-- What is wrong with a setting while acceleration is on. -/
def problemAt? (b : Bag) : Setting → Option Problem
  | .enabled => none
  | .earliestTime => b.summaryProblem?
  | .backfillTime => b.backfillProblem?
  | .maxTime => b.maxTimeProblem?
  | .maxConcurrent => b.maxConcurrentProblem?
  | .manualRebuilds => b.manualRebuildsProblem?
  | .schedulePriority => b.priorityProblem?
  | .pollBucketsUntilMaxtime => b.pollProblem?

theorem detailProblems_eq (b : Bag) : b.detailProblems = Setting.all.filterMap b.problemAt? := by
  have hall : Setting.all.filterMap b.problemAt? = (Setting.all.map b.problemAt?).filterMap id := by
    rw [List.filterMap_map]
    rfl
  rw [hall]
  rfl

/-! ## A check finds problems of its own setting -/

theorem eq_of_ite_eq_some {c : Prop} [Decidable c] {q : Problem}
    (h : (if c then some q else none) = some p) : p = q :=
  (Option.some.inj (Option.ite_none_right_eq_some.1 h).2).symm

theorem backfillProblem?_eq_some (h : b.backfillProblem? = some p) :
    p = .backfillBeforeSummary ∨ p = .invalidBackfillRange := by
  unfold backfillProblem? at h
  dsimp only at h
  split at h
  · exact .inl (Option.some.inj h).symm
  · exact .inr (eq_of_ite_eq_some h)

theorem setting_of_problemAt? (h : b.problemAt? s = some p) : p.setting = s := by
  cases s with
  | enabled => cases h
  | earliestTime => rw [eq_of_ite_eq_some h]; rfl
  | backfillTime => rcases backfillProblem?_eq_some h with rfl | rfl <;> rfl
  | maxTime => rw [eq_of_ite_eq_some h]; rfl
  | maxConcurrent => rw [eq_of_ite_eq_some h]; rfl
  | manualRebuilds =>
    change b.manualRebuildsProblem? = some p at h
    unfold manualRebuildsProblem? at h
    split at h
    · cases h
    · rw [eq_of_ite_eq_some h]; rfl
  | schedulePriority => rw [eq_of_ite_eq_some h]; rfl
  | pollBucketsUntilMaxtime =>
    change b.pollProblem? = some p at h
    unfold pollProblem? at h
    split at h
    · cases h
    · cases h
    · rw [eq_of_ite_eq_some h]; rfl

theorem mem_detailProblems : p ∈ b.detailProblems ↔ b.problemAt? p.setting = some p := by
  rw [detailProblems_eq, List.mem_filterMap]
  constructor
  · rintro ⟨s, _, hs⟩
    rwa [setting_of_problemAt? hs]
  · exact fun h => ⟨p.setting, Setting.mem_all _, h⟩

theorem detailProblems_eq_nil_iff : b.detailProblems = [] ↔ ∀ s, b.problemAt? s = none := by
  rw [detailProblems_eq, List.filterMap_eq_nil_iff]
  exact ⟨fun h s => h s (Setting.mem_all s), fun h s _ => h s⟩

theorem problemAt?_eq_none (h : b.detailProblems = []) (s : Setting) : b.problemAt? s = none :=
  detailProblems_eq_nil_iff.1 h s

theorem detailProblems_eq_toList (h : ∀ s, s ≠ .backfillTime → b.problemAt? s = none) :
    b.detailProblems = b.backfillProblem?.toList := by
  rw [detailProblems_eq]
  simp only [Setting.all, List.filterMap_cons, List.filterMap_nil, ne_eq, reduceCtorEq,
    not_false_eq_true, h]
  have hb : b.problemAt? .backfillTime = b.backfillProblem? := rfl
  rw [hb]
  cases b.backfillProblem? <;> rfl

/-- The switch that turns acceleration on is not among the details. -/
theorem enabled_ne_setting_of_mem (h : p ∈ b.detailProblems) : p.setting ≠ .enabled := by
  intro hs
  have hp := mem_detailProblems.1 h
  rw [hs] at hp
  cases hp

/-! ## What a check reads -/

theorem settingText_congr (h : a.setting? s = b.setting? s) :
    a.settingText s = b.settingText s := by
  rw [settingText, settingText, h]

theorem problemAt?_congr (hs : s ≠ .backfillTime) (h : a.setting? s = b.setting? s) :
    a.problemAt? s = b.problemAt? s := by
  have htext := settingText_congr h
  cases s with
  | enabled => rfl
  | earliestTime => simp only [problemAt?, summaryProblem?, htext]
  | backfillTime => exact absurd rfl hs
  | maxTime => simp only [problemAt?, maxTimeProblem?, h]
  | maxConcurrent => simp only [problemAt?, maxConcurrentProblem?, h]
  | manualRebuilds => simp only [problemAt?, manualRebuildsProblem?, h]
  | schedulePriority => simp only [problemAt?, priorityProblem?, htext]
  | pollBucketsUntilMaxtime => simp only [problemAt?, pollProblem?, h]

theorem backfillProblem?_congr (he : a.setting? .earliestTime = b.setting? .earliestTime)
    (hb : a.setting? .backfillTime = b.setting? .backfillTime) :
    a.backfillProblem? = b.backfillProblem? := by
  have htext : a.backfillText = b.backfillText := by
    simp only [backfillText, settingText_congr he, settingText_congr hb]
  simp only [backfillProblem?, htext, settingText_congr he]

theorem detailProblems_congr (h : ∀ s, s ≠ .enabled → a.setting? s = b.setting? s) :
    a.detailProblems = b.detailProblems := by
  rw [detailProblems_eq, detailProblems_eq]
  refine List.filterMap_congr fun s _ => ?_
  by_cases hb : s = .backfillTime
  · subst hb
    exact backfillProblem?_congr (h _ (by decide)) (h _ (by decide))
  · by_cases he : s = .enabled
    · rw [he]; rfl
    · exact problemAt?_congr hb (h s he)

/-! ## The switch -/

theorem problems_of_enabled_none (h : b.enabled? = none) : b.problems = [.enabledNotBoolean] := by
  rw [problems, h]

theorem problems_of_off (h : b.enabled? = some false) : b.problems = [] := by
  rw [problems, h]

theorem problems_of_on (h : b.enabled? = some true) : b.problems = b.detailProblems := by
  rw [problems, h]

theorem enabled?_congr (h : a.setting? .enabled = b.setting? .enabled) :
    a.enabled? = b.enabled? := by
  rw [enabled?, enabled?, h]

/-- A setting has at most one problem. -/
theorem eq_of_mem_problems {q : Problem} (hp : p ∈ b.problems) (hq : q ∈ b.problems)
    (h : p.setting = q.setting) : p = q := by
  cases he : b.enabled? with
  | none =>
    rw [problems_of_enabled_none he, List.mem_singleton] at hp hq
    rw [hp, hq]
  | some on =>
    cases on with
    | false =>
      rw [problems_of_off he] at hp
      cases hp
    | true =>
      rw [problems_of_on he, mem_detailProblems] at hp hq
      rw [h, hq] at hp
      exact (Option.some.inj hp).symm

/-! ## Ranges -/

/-- Whether a text is no range or a well-formed one. -/
def RangeOk (text : String) : Prop := text ≠ "" → TimeRange.isValid text = true

theorem summaryProblem?_eq_none :
    b.summaryProblem? = none ↔ RangeOk (b.settingText .earliestTime) := by
  unfold summaryProblem? RangeOk
  simp

theorem rangeOk_of_backfillProblem? (h : b.backfillProblem? = none) :
    RangeOk (b.settingText .backfillTime) := by
  intro hne
  unfold backfillProblem? backfillText at h
  simp only [hne, if_false] at h
  split at h
  · cases h
  · simpa [hne] using h

/-- With both ranges well formed, the backfill range can only be the longer one. -/
theorem backfillProblem?_of_rangeOk (he : RangeOk (b.settingText .earliestTime))
    (hb : RangeOk (b.settingText .backfillTime)) :
    b.backfillProblem? =
      if (TimeRange.span b.backfillText).above (TimeRange.span (b.settingText .earliestTime)) then
        some .backfillBeforeSummary
      else none := by
  have hok : RangeOk b.backfillText := by
    unfold backfillText
    dsimp only
    split
    · exact he
    · exact hb
  unfold backfillProblem?
  dsimp only
  split
  · rfl
  · rw [if_neg]
    intro h
    simp only [Bool.and_eq_true, decide_eq_true_eq, Bool.not_eq_true'] at h
    rw [hok h.1] at h
    exact absurd h.2 (by decide)

theorem backfillProblem?_eq_none (he : RangeOk (b.settingText .earliestTime)) :
    b.backfillProblem? = none ↔ RangeOk (b.settingText .backfillTime) ∧
      (TimeRange.span b.backfillText).above (TimeRange.span (b.settingText .earliestTime)) =
        false := by
  constructor
  · intro h
    have hb := rangeOk_of_backfillProblem? h
    rw [backfillProblem?_of_rangeOk he hb] at h
    exact ⟨hb, by simpa using h⟩
  · rintro ⟨hb, hspan⟩
    rw [backfillProblem?_of_rangeOk he hb]
    simp [hspan]

/-! ## Integers, switches and words -/

theorem maxTimeProblem?_eq_none :
    b.maxTimeProblem? = none ↔ integer? (b.setting? .maxTime) ≠ none := by
  unfold maxTimeProblem?
  cases integer? (b.setting? .maxTime) <;> simp

theorem maxConcurrentProblem?_eq_none :
    b.maxConcurrentProblem? = none ↔ integer? (b.setting? .maxConcurrent) ≠ none := by
  unfold maxConcurrentProblem?
  cases integer? (b.setting? .maxConcurrent) <;> simp

theorem manualRebuildsProblem?_eq_none : b.manualRebuildsProblem? = none ↔
    ∀ v, b.setting? .manualRebuilds = some v → flag? v ≠ none := by
  unfold manualRebuildsProblem?
  cases b.setting? .manualRebuilds <;> simp

theorem priorityProblem?_eq_none : b.priorityProblem? = none ↔
    (b.settingText .schedulePriority ≠ "" →
      Priority.ofWord? (b.settingText .schedulePriority) ≠ none) := by
  unfold priorityProblem?
  simp

/-- The last switch may be null, which does not read as on or off. -/
theorem pollProblem?_eq_none : b.pollProblem? = none ↔
    ∀ v, b.setting? .pollBucketsUntilMaxtime = some v → v ≠ .null → flag? v ≠ none := by
  unfold pollProblem?
  cases b.setting? .pollBucketsUntilMaxtime with
  | none => simp
  | some v => cases v <;> simp

end Bag

end AccelForm
