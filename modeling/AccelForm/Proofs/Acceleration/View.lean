import AccelForm.Proofs.Acceleration.Check
/-
  Settings that were read

  What cannot be read of a setting counts as zero, off or unset. The checks
  that are made while acceleration is on ask for just what the reading needs,
  setting by setting, so with acceleration on no value is passed over in this
  way: a bag has such settings exactly if each of them was read from its
  attribute (`ofBag_iff_reads`). What is unset in the settings is then unset in
  the bag.
-/

namespace AccelForm

/-- How a switch was read: it could be, or it is not set and counts as off. -/
inductive ReadsSwitch : Option Json → Bool → Prop where
  | unset : ReadsSwitch none false
  | set {v : Json} {on : Bool} (h : flag? v = some on) : ReadsSwitch (some v) on

/-- How a switch was read that may be left open: it could be, or it is not set or null. -/
inductive ReadsOpenSwitch : Option Json → Option Bool → Prop where
  | unset : ReadsOpenSwitch none none
  | null : ReadsOpenSwitch (some .null) none
  | set {v : Json} {on : Bool} (h : flag? v = some on) : ReadsOpenSwitch (some v) (some on)

/-- How a priority was read from its text: it is one of the words, or it is not set. -/
inductive ReadsPriority : String → Option Priority → Prop where
  | unset : ReadsPriority "" none
  | set (p : Priority) : ReadsPriority p.word (some p)

theorem readsSwitch_iff {o : Option Json} {on : Bool} :
    ReadsSwitch o on ↔ (∀ v, o = some v → flag? v ≠ none) ∧ (o.bind flag?).getD false = on := by
  constructor
  · rintro (_ | h)
    · exact ⟨nofun, rfl⟩
    · simp [h]
  · rintro ⟨h, rfl⟩
    cases o with
    | none => exact .unset
    | some v =>
      obtain ⟨on, hon⟩ := Option.ne_none_iff_exists'.1 (h v rfl)
      rw [Option.bind_some, hon]
      exact .set hon

theorem readsOpenSwitch_iff {o : Option Json} {r : Option Bool} :
    ReadsOpenSwitch o r ↔ (∀ v, o = some v → v ≠ .null → flag? v ≠ none) ∧ o.bind flag? = r := by
  constructor
  · rintro (_ | _ | h)
    · exact ⟨nofun, rfl⟩
    · exact ⟨fun v hv hnull => absurd (Option.some.inj hv).symm hnull, rfl⟩
    · simp [h]
  · rintro ⟨h, rfl⟩
    cases o with
    | none => exact .unset
    | some v =>
      by_cases hnull : v = .null
      · subst hnull
        exact .null
      · obtain ⟨on, hon⟩ := Option.ne_none_iff_exists'.1 (h v rfl hnull)
        rw [Option.bind_some, hon]
        exact .set hon

theorem Priority.ofWord?_eq_some_iff {w : String} {p : Priority} :
    ofWord? w = some p ↔ w = p.word := by
  constructor
  · intro h
    have hword := List.find?_some h
    exact (beq_iff_eq.1 hword).symm
  · rintro rfl
    cases p <;> rfl

theorem readsPriority_iff {w : String} {r : Option Priority} :
    ReadsPriority w r ↔ (w ≠ "" → Priority.ofWord? w ≠ none) ∧ Priority.ofWord? w = r := by
  constructor
  · rintro (_ | p)
    · exact ⟨fun hne => absurd rfl hne, rfl⟩
    · have hp := Priority.ofWord?_eq_some_iff.2 (rfl : p.word = p.word)
      exact ⟨fun _ => by simp [hp], hp⟩
  · rintro ⟨h, rfl⟩
    by_cases hw : w = ""
    · subst hw
      exact .unset
    · obtain ⟨p, hp⟩ := Option.ne_none_iff_exists'.1 (h hw)
      rw [hp, Priority.ofWord?_eq_some_iff.1 hp]
      exact .set p

theorem integer?_eq_some_iff {o : Option Json} {i : Int} :
    integer? o = some i ↔ integer? o ≠ none ∧ (integer? o).getD 0 = i := by
  cases integer? o <;> simp

namespace Acceleration
variable {a : Acceleration} {b : Bag}

/-- What each setting of a bag counts as. -/
def view (b : Bag) : Acceleration where
  enabled := b.enabled?.getD false
  earliestTime := b.settingText .earliestTime
  backfillTime := b.settingText .backfillTime
  maxTime := (integer? (b.setting? .maxTime)).getD 0
  maxConcurrent := (integer? (b.setting? .maxConcurrent)).getD 0
  manualRebuilds := ((b.setting? .manualRebuilds).bind flag?).getD false
  schedulePriority := Priority.ofWord? (b.settingText .schedulePriority)
  pollBucketsUntilMaxtime := (b.setting? .pollBucketsUntilMaxtime).bind flag?

theorem ofBag_eq_ok {b : Bag} {a : Acceleration} :
    ofBag b = .ok a ↔ b.problems = [] ∧ view b = a := by
  unfold ofBag
  cases hp : b.problems with
  | nil => exact ⟨fun ha => ⟨rfl, Except.ok.inj ha⟩, fun ha => congrArg _ ha.2⟩
  | cons p rest => exact iff_of_false (fun ha => by cases ha) (fun ha => by cases ha.1)

/-- The backfill range that applies: the summary range where none is set. -/
def backfill (a : Acceleration) : String :=
  if a.backfillTime = "" then a.earliestTime else a.backfillTime

/-- The settings were read from a bag with acceleration on, each from its attribute, and the ranges
are well formed and fit together. -/
structure Reads (b : Bag) (a : Acceleration) : Prop where
  enabled : b.enabled? = some true ∧ a.enabled = true
  earliestTime : a.earliestTime = b.settingText .earliestTime ∧ Bag.RangeOk a.earliestTime
  backfillTime : a.backfillTime = b.settingText .backfillTime ∧ Bag.RangeOk a.backfillTime
  span : (TimeRange.span a.backfill).above (TimeRange.span a.earliestTime) = false
  maxTime : integer? (b.setting? .maxTime) = some a.maxTime
  maxConcurrent : integer? (b.setting? .maxConcurrent) = some a.maxConcurrent
  manualRebuilds : ReadsSwitch (b.setting? .manualRebuilds) a.manualRebuilds
  schedulePriority : ReadsPriority (b.settingText .schedulePriority) a.schedulePriority
  pollBucketsUntilMaxtime :
    ReadsOpenSwitch (b.setting? .pollBucketsUntilMaxtime) a.pollBucketsUntilMaxtime

theorem Reads.view_eq (h : Reads b a) : view b = a := by
  rw [view, h.enabled.1, ← h.earliestTime.1, ← h.backfillTime.1, h.maxTime, h.maxConcurrent,
    (readsSwitch_iff.1 h.manualRebuilds).2, (readsPriority_iff.1 h.schedulePriority).2,
    (readsOpenSwitch_iff.1 h.pollBucketsUntilMaxtime).2]
  have hon := h.enabled.2
  cases a
  subst hon
  rfl

/-- With acceleration on, the checks pass exactly if every setting could be read. -/
theorem reads_view_iff (hon : b.enabled? = some true) :
    Reads b (view b) ↔ b.detailProblems = [] := by
  rw [Bag.detailProblems_eq_nil_iff]
  constructor
  · intro h s
    cases s with
    | enabled => rfl
    | earliestTime => exact Bag.summaryProblem?_eq_none.2 h.earliestTime.2
    | backfillTime =>
      exact (Bag.backfillProblem?_eq_none h.earliestTime.2).2 ⟨h.backfillTime.2, h.span⟩
    | maxTime => exact Bag.maxTimeProblem?_eq_none.2 (integer?_eq_some_iff.1 h.maxTime).1
    | maxConcurrent =>
      exact Bag.maxConcurrentProblem?_eq_none.2 (integer?_eq_some_iff.1 h.maxConcurrent).1
    | manualRebuilds =>
      exact Bag.manualRebuildsProblem?_eq_none.2 (readsSwitch_iff.1 h.manualRebuilds).1
    | schedulePriority =>
      exact Bag.priorityProblem?_eq_none.2 (readsPriority_iff.1 h.schedulePriority).1
    | pollBucketsUntilMaxtime =>
      exact Bag.pollProblem?_eq_none.2 (readsOpenSwitch_iff.1 h.pollBucketsUntilMaxtime).1
  · intro h
    have hsummary := Bag.summaryProblem?_eq_none.1 (h .earliestTime)
    obtain ⟨hbackfill, hspan⟩ := (Bag.backfillProblem?_eq_none hsummary).1 (h .backfillTime)
    have hmaxTime := Bag.maxTimeProblem?_eq_none.1 (h .maxTime)
    have hmaxConcurrent := Bag.maxConcurrentProblem?_eq_none.1 (h .maxConcurrent)
    have hrebuilds := Bag.manualRebuildsProblem?_eq_none.1 (h .manualRebuilds)
    have hpriority := Bag.priorityProblem?_eq_none.1 (h .schedulePriority)
    have hpoll := Bag.pollProblem?_eq_none.1 (h .pollBucketsUntilMaxtime)
    exact {
      enabled := ⟨hon, by rw [view, hon]; rfl⟩
      earliestTime := ⟨rfl, hsummary⟩
      backfillTime := ⟨rfl, hbackfill⟩
      span := hspan
      maxTime := integer?_eq_some_iff.2 ⟨hmaxTime, rfl⟩
      maxConcurrent := integer?_eq_some_iff.2 ⟨hmaxConcurrent, rfl⟩
      manualRebuilds := readsSwitch_iff.2 ⟨hrebuilds, rfl⟩
      schedulePriority := readsPriority_iff.2 ⟨hpriority, rfl⟩
      pollBucketsUntilMaxtime := readsOpenSwitch_iff.2 ⟨hpoll, rfl⟩ }

/-- A bag has settings with acceleration on exactly if every one of them was read from its
attribute: no value that cannot be read is passed over. -/
theorem ofBag_iff_reads (b : Bag) (a : Acceleration) :
    ofBag b = .ok a ∧ a.enabled = true ↔ Reads b a := by
  rw [ofBag_eq_ok]
  constructor
  · rintro ⟨⟨hvalid, rfl⟩, henabled⟩
    have hon : b.enabled? = some true :=
      (Option.getD_eq_iff.1 henabled).resolve_right fun hoff => Bool.false_ne_true hoff.2
    rw [Bag.problems_of_on hon] at hvalid
    exact (reads_view_iff hon).2 hvalid
  · intro h
    have hview := h.view_eq
    refine ⟨⟨?_, hview⟩, h.enabled.2⟩
    rw [Bag.problems_of_on h.enabled.1]
    exact (reads_view_iff h.enabled.1).1 (hview ▸ h)

/-- Ranges that are equally long fit together, however they are spelled. -/
example : ofBag (.ofList [("acceleration", .string "On"),
    ("acceleration.earliest_time", .string "-1d"), ("acceleration.backfill_time", .string "-24h"),
    ("acceleration.max_time", .string " 3600 "), ("acceleration.max_concurrent", .null),
    ("acceleration.poll_buckets_until_maxtime", .null)]) =
      .ok ⟨true, "-1d", "-24h", 3600, 0, false, none, none⟩ := by
  decide +kernel

end Acceleration

end AccelForm
