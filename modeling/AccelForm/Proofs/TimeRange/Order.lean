import AccelForm.Proofs.TimeRange.Measure
/-
  The order of ranges

  Ranges are compared by their spans, then by the weights of their units, then
  as texts. Each of the three is a total order of its own, and the last one
  tells all texts apart, so together they are a total order (`order_total`).
  Its ends are known without any arithmetic (`order_ends`): where a count is
  too large for a number, or is zero, the spans are equal, and the weights of
  the units decide.
-/

namespace AccelForm.TimeRange

variable {a b : String}

/-! ## Three orders in a row -/

/-- Equal texts need no case of their own. -/
theorem order_eq (a b : String) : order a b =
    (compare (span a).rank (span b).rank).then
      ((compare (unitWeight a).rank (unitWeight b).rank).then (compare a b)) := by
  unfold order
  split
  · next hab =>
    subst hab
    simp only [Std.ReflCmp.compare_self, Ordering.then_eq]
  · rfl

theorem order_eq_compareLex : order = compareLex (compareOn fun s => (span s).rank)
    (compareLex (compareOn fun s => (unitWeight s).rank) compare) := by
  funext a b
  exact order_eq a b

instance : Std.TransCmp order := by
  rw [order_eq_compareLex]
  infer_instance

instance : Std.LawfulEqCmp order where
  eq_of_compare := by
    intro a b h
    rw [order_eq, Ordering.then_eq_eq, Ordering.then_eq_eq] at h
    exact Std.LawfulEqCmp.eq_of_compare h.2.2

/-- Ranges are totally ordered: the order can be turned round, only a range itself is equal to it,
and what is not past a range is not past what that one is not past. -/
theorem order_total (a b c : String) : order a b = (order b a).swap ∧
    (order a b = .eq ↔ a = b) ∧
    (order a b ≠ .gt → order b c ≠ .gt → order a c ≠ .gt) := by
  refine ⟨Std.OrientedCmp.eq_swap, Std.LawfulEqCmp.compare_eq_iff_eq, ?_⟩
  intro hab hbc
  have hisLE : (order a c).isLE = true :=
    Std.TransCmp.isLE_trans (Ordering.isLE_iff_ne_gt.2 hab) (Ordering.isLE_iff_ne_gt.2 hbc)
  exact Ordering.isLE_iff_ne_gt.1 hisLE

theorem order_second_hour_day : order "-1s" "-24h" = .lt ∧ order "-24h" "-1d" = .lt ∧
    order "-1s" "-1d" ≠ .gt := by
  have hseconds : order "-1s" "-24h" = .lt := by decide +kernel
  have hhours : order "-24h" "-1d" = .lt := by decide +kernel
  refine ⟨hseconds, hhours, (order_total "-1s" "-24h" "-1d").2.2 ?_ ?_⟩
  · rw [hseconds]
    decide
  · rw [hhours]
    decide

/-! ## The ends -/

theorem order_eq_lt (hspan : (span a).rank ≤ (span b).rank)
    (hweight : (unitWeight a).rank < (unitWeight b).rank) : order a b = .lt := by
  rw [order_eq, compare_lt_iff_lt.2 hweight]
  obtain hlt | heq := Int.lt_or_eq_of_le hspan
  · rw [compare_lt_iff_lt.2 hlt]
    rfl
  · rw [compare_eq_iff_eq.2 heq]
    rfl

theorem span_of_isAllTime (h : isAllTime a = true) : span a = .infinite false := by
  rw [span, measure, if_pos h]

theorem unitWeight_of_isAllTime (h : isAllTime a = true) : unitWeight a = .infinite false := by
  rw [unitWeight, measure, if_pos h]

/-- No unit weighs as much as all time. -/
theorem rank_unitWeight_lt (h : isAllTime a = false) : (unitWeight a).rank < infinityCode := by
  unfold unitWeight
  obtain ⟨hall, _⟩ | ⟨digits, unit, _, hmeasure⟩ | ⟨_, _, hmeasure⟩ := measure_cases a
  · rw [h] at hall
    cases hall
  · rw [hmeasure]
    exact (rank_weight unit).2
  · rw [hmeasure]
    decide

theorem order_allTime (ha : isAllTime a = false) (hb : isAllTime b = true) : order a b = .lt := by
  apply order_eq_lt
  · rw [span_of_isAllTime hb]
    exact (magnitude_span a).rank_bounds.2
  · rw [unitWeight_of_isAllTime hb]
    exact rank_unitWeight_lt ha

theorem order_of_not_leads (ha : isAllTime a = false) (hno : ∀ digits unit, ¬ Leads a digits unit)
    {digits : List Char} {unit : TimeUnit} (hb : Leads b digits unit) : order a b = .lt := by
  obtain ⟨hall, _⟩ | ⟨digits, unit, hleads, _⟩ | ⟨_, _, hmeasure⟩ := measure_cases a
  · rw [ha] at hall
    cases hall
  · exact absurd hleads (hno digits unit)
  · apply order_eq_lt
    · rw [span, hmeasure]
      exact (magnitude_span b).rank_bounds.1
    · rw [unitWeight, unitWeight, hmeasure, hb.measure_eq]
      exact (rank_weight unit).1

theorem isAllTime_eq_false (hempty : a ≠ "") (hzero : a ≠ allTime) : isAllTime a = false := by
  simp [isAllTime, hempty, hzero]

/-- All time is the furthest, whatever the span of the other text, and a text without a count and a
unit is more recent than any with them, whatever its count. -/
theorem order_ends :
    (∀ s : String, s ≠ "" → s ≠ allTime → order s allTime = .lt ∧ order s "" = .lt) ∧
    (∀ s t : String, s ≠ "" → s ≠ allTime → (¬ ∃ digits unit, Leads s digits unit) →
      (∃ digits unit, Leads t digits unit) → order s t = .lt) := by
  constructor
  · intro s hempty hzero
    have hs := isAllTime_eq_false hempty hzero
    exact ⟨order_allTime hs (by decide), order_allTime hs (by decide)⟩
  · intro s t hempty hzero hno ⟨digits, unit, ht⟩
    have hs := isAllTime_eq_false hempty hzero
    exact order_of_not_leads hs (fun ds u h => hno ⟨ds, u, h⟩) ht

/-- A count of days that is too large for a number. -/
def endless : String := String.ofList ('-' :: (List.replicate 310 '9' ++ ['d']))

theorem leads_endless : Leads endless (List.replicate 310 '9') .day := by
  refine ⟨'d', [], ⟨String.toList_ofList, by decide, ?_⟩, rfl⟩
  intro c hc
  rw [List.eq_of_mem_replicate hc]
  rfl

theorem span_endless : span endless = .infinite false := by
  have hcount : countValue (List.replicate 310 '9') = .infinite false := by decide +kernel
  obtain ⟨w, hw, hsign, hpos⟩ := TimeUnit.day.exists_positive_weight
  rw [span, leads_endless.measure_eq, hcount, hw]
  dsimp only
  rw [Binary64.mul, if_neg hpos, hsign]
  rfl

theorem order_endless_now :
    (span endless = .infinite false ∧ order endless allTime = .lt ∧ order endless "" = .lt) ∧
    span "-0s" = .finite Finite64.zero ∧ order "now" "-0s" = .lt := by
  obtain ⟨hempty, hzero⟩ : endless ≠ "" ∧ endless ≠ allTime := by
    simpa [isAllTime] using leads_endless.isAllTime_eq
  have hno : ¬ ∃ digits unit, Leads "now" digits unit := by
    intro hleads
    obtain ⟨digits, unit, h⟩ := hleads
    have hleading := leading?_eq_some_iff.2 ⟨digits, h, rfl⟩
    have hnone : leading? "now".toList = none := by decide
    rw [hnone] at hleading
    cases hleading
  have hseconds : Leads "-0s" ['0'] .second :=
    ⟨'s', [], ⟨rfl, by decide, List.all_eq_true.1 (by decide)⟩, rfl⟩
  exact ⟨⟨span_endless, order_ends.1 endless hempty hzero⟩, span_no_time,
    order_ends.2 "now" "-0s" (by decide) (by decide) hno ⟨_, _, hseconds⟩⟩

end AccelForm.TimeRange
