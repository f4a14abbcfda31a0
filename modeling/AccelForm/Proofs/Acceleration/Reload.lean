import AccelForm.Proofs.Acceleration.View
import AccelForm.Proofs.Attribute.Change
import AccelForm.Proofs.Attribute.Reread
/-
  Settings after a save and a reload

  A server that keeps what it is sent lists every parameter as a string. The
  texts of the settings and what the switches say are then as before
  (`settingText_reloaded`, `flag?_reloaded`); the integers are if their values
  keep them. One check asks for more than it did: a switch that may be null
  may not be the empty text, as which null is sent. `Survives` collects what
  is needed for the settings to be the same, and no less will do
  (`ofBag_reloaded`).
-/

namespace AccelForm

namespace Bag

/-- The bag with every value that is sent replaced by the text in which it is sent. -/
def reloaded (b : Bag) : Bag :=
  (b.params .newest).foldl (fun c p => c.insert p.1 (.string p.2)) b

variable {b : Bag} {s : Setting}

/-! ## Values after a reload -/

theorem get?_foldl_insert_of_not_mem {ps : List (String × String)} {k : String}
    (hk : k ∉ ps.map Prod.fst) (b : Bag) :
    (ps.foldl (fun c p => c.insert p.1 (.string p.2)) b).get? k = b.get? k := by
  induction ps generalizing b with
  | nil => rfl
  | cons p rest ih =>
    rw [List.map_cons, List.mem_cons, not_or] at hk
    rw [List.foldl_cons, ih hk.2, get?_insert, if_neg hk.1]

theorem get?_foldl_insert_of_mem {ps : List (String × String)} (hps : (ps.map Prod.fst).Nodup)
    {k t : String} (hm : (k, t) ∈ ps) (b : Bag) :
    (ps.foldl (fun c p => c.insert p.1 (.string p.2)) b).get? k = some (.string t) := by
  induction ps generalizing b with
  | nil => cases hm
  | cons p rest ih =>
    rw [List.map_cons, List.nodup_cons] at hps
    rw [List.foldl_cons]
    rcases List.mem_cons.1 hm with rfl | hm
    · rw [get?_foldl_insert_of_not_mem hps.1, get?_insert, if_pos rfl]
    · exact ih hps.2 hm _

theorem setting?_reloaded (b : Bag) (s : Setting) :
    b.reloaded.setting? s = (b.setting? s).map fun v => .string (sentText s v) := by
  unfold setting? reloaded
  cases hv : b.get? s.attributeName with
  | none =>
    rw [get?_foldl_insert_of_not_mem, hv, Option.map_none]
    rw [map_fst_params, List.mem_filter, contains, hv]
    exact fun h => Bool.false_ne_true h.2
  | some v =>
    have hparam : (s.attributeName, sentText s v) ∈ b.params .newest := by
      refine List.mem_append_left _ (List.mem_filterMap.2 ⟨s, Features.mem_settings.2 ?_, ?_⟩)
      · cases s <;> rfl
      · rw [param?, hv, Option.map_some]
    rw [get?_foldl_insert_of_mem (nodup_map_fst_params b _) hparam, Option.map_some]

/-- What a switch says, and whether it can be read, is as before. -/
theorem flag?_sentText (hs : s.isSwitch = true) (v : Json) :
    flag? (.string (sentText s v)) = flag? v := by
  unfold sentText
  cases hv : flag? v with
  | none => rw [hs]; exact flagOfWord?_valueText hv
  | some on =>
    have hone : flag? (.string "1") = some true := by decide +kernel
    have hzero : flag? (.string "0") = some false := by decide +kernel
    rw [hs]
    cases on
    · exact hzero
    · exact hone

theorem flag?_reloaded (hs : s.isSwitch = true) (b : Bag) :
    (b.reloaded.setting? s).bind flag? = (b.setting? s).bind flag? := by
  rw [setting?_reloaded]
  cases b.setting? s with
  | none => rfl
  | some v => exact flag?_sentText hs v

theorem sentText_of_not_switch (hs : s.isSwitch = false) (v : Json) :
    sentText s v = valueText (some v) := by
  unfold sentText
  rw [hs]

theorem settingText_reloaded (hs : s.isSwitch = false) (b : Bag) :
    b.reloaded.settingText s = b.settingText s := by
  rw [settingText, settingText, setting?_reloaded]
  cases b.setting? s with
  | none => rfl
  | some v => exact sentText_of_not_switch hs v

theorem setting?_reloaded_of_not_switch (hs : s.isSwitch = false) (b : Bag) :
    b.reloaded.setting? s = (b.setting? s).map fun v => .string (valueText (some v)) := by
  rw [setting?_reloaded]
  simp only [sentText_of_not_switch hs]

/-! ## Integers after a reload -/

/-- Whether the value of a setting, if there is one, counts as the same integer after a reload. -/
def KeepsSetting (b : Bag) (s : Setting) : Prop :=
  ∀ v, b.setting? s = some v → KeepsInteger (b.enabled? == some false) v

theorem eq_of_getD_eq {o p : Option Int} (ho : o ≠ none) (hp : p ≠ none)
    (h : o.getD 0 = p.getD 0) : o = p := by
  cases o with
  | none => exact absurd rfl ho
  | some i =>
    cases p with
    | none => exact absurd rfl hp
    | some j => exact congrArg some h

theorem integer?_reloaded_eq_iff (hs : s.isSwitch = false) (hon : b.enabled? = some true)
    (h : integer? (b.setting? s) ≠ none) :
    integer? (b.reloaded.setting? s) = integer? (b.setting? s) ↔ b.KeepsSetting s := by
  unfold KeepsSetting
  rw [setting?_reloaded_of_not_switch hs, hon]
  cases hv : b.setting? s with
  | none => exact iff_of_true rfl fun v hv => by cases hv
  | some v =>
    rw [hv] at h
    exact (reread?_eq_iff h).trans ⟨fun hk w hw => Option.some.inj hw ▸ hk, fun hk => hk v rfl⟩

theorem integer?_reloaded_getD_eq_iff (hs : s.isSwitch = false) (hoff : b.enabled? = some false) :
    (integer? (b.reloaded.setting? s)).getD 0 = (integer? (b.setting? s)).getD 0 ↔
      b.KeepsSetting s := by
  unfold KeepsSetting
  rw [setting?_reloaded_of_not_switch hs, hoff]
  cases hv : b.setting? s with
  | none => exact iff_of_true rfl fun v hv => by cases hv
  | some v =>
    exact (reread?_getD_eq_iff v).trans ⟨fun hk w hw => Option.some.inj hw ▸ hk, fun hk => hk v rfl⟩

/-! ## Checks after a reload -/

theorem problemAt?_reloaded (hs : s ≠ .maxTime ∧ s ≠ .maxConcurrent ∧ s ≠ .pollBucketsUntilMaxtime)
    (b : Bag) : b.reloaded.problemAt? s = b.problemAt? s := by
  have hearliest := settingText_reloaded (s := .earliestTime) rfl b
  cases s with
  | enabled => rfl
  | earliestTime => simp only [problemAt?, summaryProblem?, hearliest]
  | backfillTime =>
    have hbackfill := settingText_reloaded (s := .backfillTime) rfl b
    have htext : b.reloaded.backfillText = b.backfillText := by
      rw [backfillText, backfillText, hearliest, hbackfill]
    simp only [problemAt?, backfillProblem?, htext, hearliest]
  | manualRebuilds =>
    simp only [problemAt?, manualRebuildsProblem?, setting?_reloaded]
    cases b.setting? .manualRebuilds with
    | none => rfl
    | some v => simp only [Option.map_some, flag?_sentText (s := .manualRebuilds) rfl]
  | schedulePriority =>
    have hpriority := settingText_reloaded (s := .schedulePriority) rfl b
    simp only [problemAt?, priorityProblem?, hpriority]
  | maxTime => exact absurd rfl hs.1
  | maxConcurrent => exact absurd rfl hs.2.1
  | pollBucketsUntilMaxtime => exact absurd rfl hs.2.2

/-- The switch that may be null may not be the empty text. -/
theorem pollProblem?_reloaded (h : b.pollProblem? = none) :
    b.reloaded.pollProblem? = none ↔ b.setting? .pollBucketsUntilMaxtime ≠ some .null := by
  have hflag := flag?_sentText (s := .pollBucketsUntilMaxtime) rfl
  unfold pollProblem? at h ⊢
  rw [setting?_reloaded]
  cases hv : b.setting? .pollBucketsUntilMaxtime with
  | none => exact iff_of_true rfl (by simp)
  | some v =>
    rw [hv] at h
    simp only [Option.map_some, hflag]
    by_cases hnull : v = .null
    · subst hnull
      exact iff_of_false (by decide) (by simp)
    · refine iff_of_true ?_ (by simpa using hnull)
      cases v <;> first | exact absurd rfl hnull | exact h

theorem enabled?_reloaded (b : Bag) : b.reloaded.enabled? = b.enabled? := flag?_reloaded rfl b

theorem problems_reloaded (hon : b.enabled? = some true) (h : b.problems = []) :
    b.reloaded.problems = [] ↔
      integer? (b.reloaded.setting? .maxTime) ≠ none ∧
      integer? (b.reloaded.setting? .maxConcurrent) ≠ none ∧
      b.setting? .pollBucketsUntilMaxtime ≠ some .null := by
  rw [problems_of_on hon] at h
  have hchecks := problemAt?_eq_none h
  rw [problems_of_on ((enabled?_reloaded b).trans hon), ← maxTimeProblem?_eq_none,
    ← maxConcurrentProblem?_eq_none,
    ← pollProblem?_reloaded (hchecks .pollBucketsUntilMaxtime)]
  constructor
  · exact fun hr => ⟨problemAt?_eq_none hr .maxTime, problemAt?_eq_none hr .maxConcurrent,
      problemAt?_eq_none hr .pollBucketsUntilMaxtime⟩
  · rintro ⟨hmaxTime, hmaxConcurrent, hpoll⟩
    rw [detailProblems_eq_nil_iff]
    intro s
    by_cases hs : s ≠ .maxTime ∧ s ≠ .maxConcurrent ∧ s ≠ .pollBucketsUntilMaxtime
    · rw [problemAt?_reloaded hs, hchecks]
    · cases s <;> first | assumption | simp at hs

end Bag

/-! ## The settings after a reload -/

namespace Acceleration

theorem view_reloaded (b : Bag) : view b.reloaded = view b ↔
    (integer? (b.reloaded.setting? .maxTime)).getD 0 = (integer? (b.setting? .maxTime)).getD 0 ∧
    (integer? (b.reloaded.setting? .maxConcurrent)).getD 0 =
      (integer? (b.setting? .maxConcurrent)).getD 0 := by
  have htext : ∀ s : Setting, s.isSwitch = false → b.reloaded.settingText s = b.settingText s :=
    fun s hs => Bag.settingText_reloaded hs b
  have hflag : ∀ s : Setting, s.isSwitch = true →
      (b.reloaded.setting? s).bind flag? = (b.setting? s).bind flag? :=
    fun s hs => Bag.flag?_reloaded hs b
  rw [view, view, mk.injEq, Bag.enabled?_reloaded, htext _ rfl, htext _ rfl, htext _ rfl,
    hflag _ rfl, hflag _ rfl]
  simp only [true_and, and_true]

end Acceleration

/-- What it takes for the settings of a bag to be the same after a reload. -/
structure Bag.Survives (b : Bag) : Prop where
  maxTime : b.KeepsSetting .maxTime
  maxConcurrent : b.KeepsSetting .maxConcurrent
  poll : b.enabled? = some true → b.setting? .pollBucketsUntilMaxtime ≠ some .null

/-- The settings of a bag without problems survive a save and a reload exactly if nothing stands in
their way: an integer given by a boolean, a whole number of 64 bits whose digits do not fit, and,
while acceleration is on, a switch that is null. -/
theorem Acceleration.ofBag_reloaded {b : Bag} (h : b.problems = []) :
    ∃ a, ofBag b = .ok a ∧ (ofBag b.reloaded = .ok a ↔ b.Survives) := by
  refine ⟨view b, ofBag_eq_ok.2 ⟨h, rfl⟩, ?_⟩
  rw [ofBag_eq_ok, view_reloaded]
  cases hswitch : b.enabled? with
  | none =>
    rw [Bag.problems_of_enabled_none hswitch] at h
    cases h
  | some on =>
    cases on with
    | false =>
      rw [Bag.integer?_reloaded_getD_eq_iff rfl hswitch,
        Bag.integer?_reloaded_getD_eq_iff rfl hswitch]
      have hoff := Bag.problems_of_off ((Bag.enabled?_reloaded b).trans hswitch)
      exact ⟨fun ⟨_, ht, hc⟩ => ⟨ht, hc, fun hon => by rw [hswitch] at hon; cases hon⟩,
        fun hs => ⟨hoff, hs.maxTime, hs.maxConcurrent⟩⟩
    | true =>
      have hchecks := Bag.problemAt?_eq_none ((Bag.problems_of_on hswitch).symm.trans h)
      have ht := Bag.maxTimeProblem?_eq_none.1 (hchecks .maxTime)
      have hc := Bag.maxConcurrentProblem?_eq_none.1 (hchecks .maxConcurrent)
      have htime := Bag.integer?_reloaded_eq_iff rfl hswitch ht
      have hsearches := Bag.integer?_reloaded_eq_iff rfl hswitch hc
      rw [Bag.problems_reloaded hswitch h]
      constructor
      · rintro ⟨⟨ht', hc', hpoll⟩, htd, hcd⟩
        exact ⟨htime.1 (Bag.eq_of_getD_eq ht' ht htd), hsearches.1 (Bag.eq_of_getD_eq hc' hc hcd),
          fun _ => hpoll⟩
      · rintro ⟨ht', hc', hpoll⟩
        rw [htime.2 ht', hsearches.2 hc']
        exact ⟨⟨ht, hc, hpoll hswitch⟩, rfl, rfl⟩

/-- A bag in the spellings that a server and a form mix. -/
def mixedBag : Bag := .ofList [("acceleration", .bool true),
  ("acceleration.earliest_time", .string "-1y"), ("acceleration.max_time", .number (.int 3600)),
  ("acceleration.max_concurrent", .null), ("acceleration.manual_rebuilds", .string "No")]

theorem mixedBag_ofBag_reloaded :
    mixedBag.problems = [] ∧ ∃ a, Acceleration.ofBag mixedBag = .ok a ∧
      (Acceleration.ofBag mixedBag.reloaded = .ok a ↔ mixedBag.Survives) :=
  have hvalid : mixedBag.problems = [] := by decide +kernel
  ⟨hvalid, Acceleration.ofBag_reloaded hvalid⟩

/-- Bags without problems that do not survive: a switch that is null, an integer given by a
boolean, and a whole number of 54 binary digits. -/
def perishingBags : List Bag := [
  .ofList [("acceleration", .bool true), ("acceleration.poll_buckets_until_maxtime", .null)],
  .ofList [("acceleration", .bool true), ("acceleration.max_time", .bool true)],
  .ofList [("acceleration", .bool true),
    ("acceleration.max_time", .number (.int 9007199254740993))]]

/-- Passing the checks is not enough to survive a reload. -/
theorem perishingBags_ofBag_reloaded :
    perishingBags.map Bag.problems = [[], [], []] ∧
    perishingBags.map (fun b =>
      decide (Acceleration.ofBag b.reloaded = Acceleration.ofBag b)) = [false, false, false] := by
  decide +kernel

end AccelForm
