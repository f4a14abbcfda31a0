import AccelForm.Proofs.Acceleration.Check
/-
  Putting settings back

  The settings of a bag that have problems are put back to a baseline, all
  others stay. What is checked is then a mixture of two bags, and there are
  three ways in which it can have problems although the baseline has none
  (`Remaining`): the switch could not be read and hid the other settings of the
  bag; the baseline's switch is off and hid the other settings of the baseline;
  or the two ranges, one from each bag, do not fit together.
-/

namespace AccelForm

namespace Bag

/-- The bag `b'` is `b` with the settings that have problems put back to `base`. -/
def PutBack (b base b' : Bag) : Prop :=
  ∀ s, b'.setting? s =
    if s ∈ b.problems.map Problem.setting then base.setting? s else b.setting? s

variable {b base b' : Bag}

/-! ## While the switch cannot be read -/

/-- Only the switch was put back, so all that it hid is seen if the baseline is on. -/
theorem PutBack.problems_of_enabled_none (h : PutBack b base b') (hb : b.enabled? = none)
    (hvalid : base.problems = []) :
    b'.problems = if base.enabled? = some true then b.detailProblems else [] := by
  unfold PutBack at h
  rw [Bag.problems_of_enabled_none hb] at h
  have henabled : b'.enabled? = base.enabled? := enabled?_congr (by rw [h]; rfl)
  have hdetails : b'.detailProblems = b.detailProblems := by
    refine detailProblems_congr fun s hs => ?_
    rw [h, if_neg]
    simpa [Problem.setting] using hs
  cases he : base.enabled? with
  | none =>
    rw [Bag.problems_of_enabled_none he] at hvalid
    cases hvalid
  | some on =>
    rw [he] at henabled
    cases on with
    | false => exact problems_of_off henabled
    | true => exact (problems_of_on henabled).trans hdetails

/-! ## While acceleration is on -/

/-- A setting that has no problem while acceleration is on passes its check. -/
theorem problemAt?_of_not_mem (hon : b.enabled? = some true) {s : Setting}
    (hs : s ∉ b.problems.map Problem.setting) : b.problemAt? s = none := by
  cases hp : b.problemAt? s with
  | none => rfl
  | some p =>
    have hsetting := setting_of_problemAt? hp
    have hm : p ∈ b.detailProblems := mem_detailProblems.2 (hsetting ▸ hp)
    exact absurd (List.mem_map.2 ⟨p, Bag.problems_of_on hon ▸ hm, hsetting⟩) hs

section On
variable (h : PutBack b base b') (hon : b.enabled? = some true)

include h hon

/-- The switch has no problem, so acceleration stays on. -/
theorem PutBack.problems_of_on : b'.problems = b'.detailProblems := by
  have hmem : Setting.enabled ∉ b.problems.map Problem.setting := by
    intro hm
    obtain ⟨p, hp, hs⟩ := List.mem_map.1 hm
    rw [Bag.problems_of_on hon] at hp
    exact enabled_ne_setting_of_mem hp hs
  have henabled : b'.enabled? = b.enabled? := enabled?_congr (by rw [h, if_neg hmem])
  exact Bag.problems_of_on (henabled.trans hon)

/-- A check that reads one setting alone finds what it finds in the baseline, if the setting was
put back, and otherwise nothing. -/
theorem PutBack.problemAt? {s : Setting} (hs : s ≠ .backfillTime) :
    b'.problemAt? s = if s ∈ b.problems.map Problem.setting then base.problemAt? s else none := by
  have hb' := h s
  split at hb'
  · next hm => rw [if_pos hm, problemAt?_congr hs hb']
  · next hm => rw [if_neg hm, problemAt?_congr hs hb', problemAt?_of_not_mem hon hm]

/-- What is left are the problems that the baseline has too, and those of the ranges. -/
theorem PutBack.mem_problems {p : Problem} : p ∈ b'.problems ↔
    (p ∈ b.problems ∧ p ∈ base.detailProblems ∧ p.setting ≠ .backfillTime) ∨
      b'.backfillProblem? = some p := by
  rw [h.problems_of_on hon, mem_detailProblems]
  -- only the check of the backfill range reads a setting that may come from the other bag
  by_cases hs : p.setting = .backfillTime
  · rw [hs]
    exact ⟨.inr, fun hp => hp.resolve_left fun hno => hno.2.2 rfl⟩
  · have hno : b'.backfillProblem? ≠ some p := fun hp =>
      hs (setting_of_problemAt? (s := .backfillTime) hp)
    have hmem : p.setting ∈ b.problems.map Problem.setting ↔ p ∈ b.problems := by
      refine ⟨fun hm => ?_, fun hp => List.mem_map_of_mem hp⟩
      obtain ⟨q, hq, hqs⟩ := List.mem_map.1 hm
      rwa [← Problem.eq_of_setting_eq hqs (hqs ▸ hs)]
    rw [h.problemAt? hon hs, mem_detailProblems]
    by_cases hp : p ∈ b.problems
    · rw [if_pos (hmem.2 hp)]
      exact ⟨fun hbase => .inl ⟨hp, hbase, hs⟩, fun hp => (hp.resolve_right hno).2.1⟩
    · rw [if_neg (mt hmem.1 hp)]
      exact ⟨fun heq => absurd heq (by simp), fun hp' => absurd (hp'.resolve_right hno).1 hp⟩

/-- A baseline that is on has no problems to put back, so only the ranges can be left, one of each
bag, and of them only that the backfill range is the longer one. -/
theorem PutBack.problems_of_base_on (hbase : base.enabled? = some true)
    (hvalid : base.problems = []) :
    b'.problems =
      if (TimeRange.span b'.backfillText).above (TimeRange.span (b'.settingText .earliestTime)) then
        [.backfillBeforeSummary]
      else [] := by
  rw [Bag.problems_of_on hbase] at hvalid
  have hnone : ∀ s, s ≠ .backfillTime → b'.problemAt? s = none := by
    intro s hs
    rw [h.problemAt? hon hs, problemAt?_eq_none hvalid, ite_self]
  have hsummary : RangeOk (b'.settingText .earliestTime) :=
    summaryProblem?_eq_none.1 (hnone .earliestTime (by decide))
  -- the backfill range is well formed on either side, but its check reads both ranges
  have hbackfill : RangeOk (b'.settingText .backfillTime) := by
    have hb' := h .backfillTime
    split at hb'
    · rw [settingText_congr hb']
      exact rangeOk_of_backfillProblem? (problemAt?_eq_none hvalid .backfillTime)
    · next hm =>
      rw [settingText_congr hb']
      exact rangeOk_of_backfillProblem? (problemAt?_of_not_mem hon hm)
  rw [h.problems_of_on hon, detailProblems_eq_toList hnone,
    backfillProblem?_of_rangeOk hsummary hbackfill]
  split <;> rfl

end On

/-- What is left of the problems of a bag after its settings were put back. -/
inductive Remaining (b base b' : Bag) : Prop where
  /-- The switch could not be read: what it hid is seen once it is back on. -/
  | unreadable (hb : b.enabled? = none)
      (left : b'.problems = if base.enabled? = some true then b.detailProblems else [])
  /-- Acceleration was turned on: what the baseline hid while it was off is seen. -/
  | turnedOn (hb : b.enabled? = some true) (hbase : base.enabled? = some false)
      (left : ∀ p, p ∈ b'.problems ↔
        (p ∈ b.problems ∧ p ∈ base.detailProblems ∧ p.setting ≠ .backfillTime) ∨
          b'.backfillProblem? = some p)
  /-- Acceleration was on before: only the ranges may not fit together. -/
  | on (hb : b.enabled? = some true) (hbase : base.enabled? = some true)
      (left : b'.problems =
        if (TimeRange.span b'.backfillText).above
            (TimeRange.span (b'.settingText .earliestTime)) then [.backfillBeforeSummary]
        else [])

theorem PutBack.remaining (h : PutBack b base b') (hproblems : b.problems ≠ [])
    (hvalid : base.problems = []) : Remaining b base b' := by
  cases hb : b.enabled? with
  | none => exact .unreadable hb (h.problems_of_enabled_none hb hvalid)
  | some on =>
    cases on with
    | false => exact absurd (problems_of_off hb) hproblems
    | true =>
      cases hbase : base.enabled? with
      | none =>
        rw [Bag.problems_of_enabled_none hbase] at hvalid
        cases hvalid
      | some on =>
        cases on with
        | false => exact .turnedOn hb hbase fun p => h.mem_problems hb
        | true => exact .on hb hbase (h.problems_of_base_on hb hbase hvalid)

end Bag

end AccelForm
