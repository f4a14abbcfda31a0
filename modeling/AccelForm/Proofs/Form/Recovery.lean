import AccelForm.Proofs.Acceleration.Revert
import AccelForm.Proofs.Form.Settle
/-
  After a save that found problems

  A save puts back the settings that have problems and leaves the other edits.
  That alone does not make the row valid, also where its baseline is: the
  problems that are left are those of `Bag.Remaining`, and
  `problems_remain_after_save` has a form for each of its cases. The next save
  reports the row again exactly if a problem is left and the row still differs
  from its baseline (`problems_after_save`).
-/

namespace AccelForm

namespace Row

/-- The settings that have problems are put back, as far as the checks can see. -/
theorem putBack_revert (r : Row) :
    r.attributes.PutBack r.baseline (r.revert r.problems).attributes := by
  intro s
  have hmem : s.attributeName ∈ r.problems.map (·.setting.attributeName) ↔
      s ∈ r.attributes.problems.map Problem.setting := by
    simp only [problems, List.mem_map, Setting.attributeName_inj]
  unfold Bag.setting?
  rw [get?_revert]
  by_cases hs : s ∈ r.attributes.problems.map Problem.setting
  · rw [if_pos hs, if_pos (hmem.2 hs)]
  · rw [if_neg hs, if_neg (mt hmem.1 hs)]

end Row

/-- What was sent is not reported as invalid. -/
theorem SaveOutcome.ofResult_ne_invalid (result : UpdateResult) (ps : List Problem) :
    ofResult result ≠ .invalid ps := by
  cases result <;> simp [ofResult]

namespace Form
variable {f : Form} {model : String}

/-- The items of the report on a save: what has problems, the whitelists and the settings. -/
theorem mem_items_saveWith {replies : Replies} {item : SaveItem} :
    item ∈ (f.saveWith replies).1.items ↔
      (∃ c ∈ f.plan.invalid, item = ⟨c.model, .settings, .invalid c.problems⟩) ∨
      (∃ c ∈ f.plan.whitelists.zip (replies.toWhitelists f.plan),
        item = ⟨c.1.model, .whitelist, .ofResult c.2⟩) ∨
      ∃ c ∈ f.plan.settings.zip (replies.toSettings f.plan),
        item = ⟨c.1.model, .settings, .ofResult c.2⟩ := by
  show item ∈ _ ++ _ ++ _ ↔ _
  rw [List.mem_append, List.mem_append, or_assoc]
  simp only [List.mem_map, eq_comm]

/-- A save reports as invalid what its plan lists as invalid. -/
theorem mem_items_invalid {replies : Replies} {ps : List Problem} :
    (⟨model, .settings, .invalid ps⟩ : SaveItem) ∈ (f.saveWith replies).1.items ↔
      ⟨model, ps⟩ ∈ f.plan.invalid := by
  rw [mem_items_saveWith]
  constructor
  · rintro (⟨c, hc, heq⟩ | ⟨c, _, heq⟩ | ⟨c, _, heq⟩)
    · cases heq
      exact hc
    · exact absurd (congrArg SaveItem.outcome heq).symm (SaveOutcome.ofResult_ne_invalid c.2 ps)
    · exact absurd (congrArg SaveItem.outcome heq).symm (SaveOutcome.ofResult_ne_invalid c.2 ps)
  · exact fun h => .inl ⟨_, h, rfl⟩

/-- A save reports the row of a name as invalid with the problems that it has, if it has any and
has been edited. -/
theorem EditsLead.mem_items_invalid_iff (h : EditsLead f) {replies : Replies} {r : Row}
    (hr : f.row? model = some r) (ps : List Problem) :
    (⟨model, .settings, .invalid ps⟩ : SaveItem) ∈ (f.saveWith replies).1.items ↔
      r.settingsChanged = true ∧ ps = r.problems ∧ ps ≠ [] := by
  have hmodel : r.model = model := model_of_row? hr
  rw [mem_items_invalid, h.mem_plan_invalid]
  constructor
  · rintro ⟨r', hr', hinvalid⟩
    have hrow : r = r' := Option.some.inj (hr.symm.trans hr')
    subst hrow
    obtain ⟨hchanged, hp, heq⟩ := Row.invalidChange?_eq_some hinvalid
    cases heq
    exact ⟨hchanged, rfl, hp⟩
  · rintro ⟨hchanged, rfl, hp⟩
    refine ⟨r, hr, ?_⟩
    simp [Row.invalidChange?, hchanged, hp, hmodel]

/-- After a save that reported a row as invalid, the settings that it named are as in the baseline
and all else is as it was. The problems that are left are those of `Bag.Remaining`. The next save
reports the row again exactly if there are any and the row is still edited; if there are none, its
remaining edits are sent. -/
theorem problems_after_save (h : f.Reachable) (replies : Replies) {r : Row}
    (hr : f.row? model = some r) (hvalid : r.baseline.problems = []) {ps : List Problem}
    (hinvalid : (⟨model, .settings, .invalid ps⟩ : SaveItem) ∈ (f.saveWith replies).1.items) :
    ∃ r', (f.saveWith replies).2.row? model = some r' ∧ r'.baseline = r.baseline ∧
      (∀ k, r'.attributes.get? k =
        if k ∈ ps.map (·.setting.attributeName) then r.baseline.get? k else r.attributes.get? k) ∧
      Bag.Remaining r.attributes r.baseline r'.attributes ∧
      (∀ next qs, (⟨model, .settings, .invalid qs⟩ : SaveItem) ∈
          ((f.saveWith replies).2.saveWith next).1.items ↔
        r'.settingsChanged = true ∧ qs = r'.problems ∧ qs ≠ []) ∧
      (r'.problems = [] → r'.settingsChanged = true →
        ⟨model, r'.baseline.changedKeys r'.attributes, r'.attributes.params f.features⟩ ∈
          (f.saveWith replies).2.plan.settings) := by
  have hlead := h.editsLead
  have hnext : EditsLead (f.saveWith replies).2 := (h.saveWith replies).editsLead
  have hfeatures : (f.saveWith replies).2.features = f.features :=
    features_perform f (.save replies)
  obtain ⟨hchanged, rfl, hp⟩ := (hlead.mem_items_invalid_iff hr ps).1 hinvalid
  have hinvalid : r.invalidChange? = some ⟨r.model, r.problems⟩ := by
    simp [Row.invalidChange?, hchanged, hp]
  obtain ⟨a, status, rfl, hr'⟩ := hlead.row?_settle hr (replies.toWhitelists f.plan)
    (replies.toSettings f.plan)
  generalize hsettled : ({ a.settled f.features with status } : Row) = r' at hr'
  have hbaseline : r'.baseline = a.row.baseline := by
    rw [← hsettled]
    exact Answer.settled_baseline_of_invalid hinvalid
  have hattributes : r'.attributes = (a.row.revert a.row.problems).attributes := by
    rw [← hsettled]
    show (a.settled f.features).attributes = _
    rw [Answer.settled_attributes, Row.reverted, hinvalid]
  refine ⟨r', hr', hbaseline, fun k => ?_, ?_, fun next qs => hnext.mem_items_invalid_iff hr' qs,
    fun hvalid' hchanged' => ?_⟩
  · rw [hattributes, Row.get?_revert]
  · rw [hattributes]
    exact a.row.putBack_revert.remaining hp hvalid
  · have hmodel : r'.model = model := model_of_row? hr'
    refine hnext.mem_plan_settings.2 ⟨r', hr', ?_⟩
    simp [Row.settingsChange?, hchanged', hvalid', hmodel, hfeatures]

/-- A form with one row: the switch, the two ranges and the longest time of a search. -/
def alone (switch summary backfill maxTime : String) : Form :=
  ofAssets (releaseOf (.error (.timeout ⟨0⟩))) 70
    ⟨[], [], [⟨"Web", .ofList [("acceleration", .string switch),
      ("acceleration.earliest_time", .string summary),
      ("acceleration.backfill_time", .string backfill),
      ("acceleration.max_time", .string maxTime)]⟩], []⟩

theorem reachable_run_alone (switch summary backfill maxTime : String) (ops : List Operation) :
    ((alone switch summary backfill maxTime).run ops).Reachable :=
  (Reachable.load (loaded_ofAssets _ _ _)).run ops

/-- A row that is valid after a wrong number was put back, with another edit left. -/
def mended : Form := (alone "1" "-1y" "-6mon" "3600").run
  [.setSetting "Web" .maxTime (.string "abc"), .setSetting "Web" .maxConcurrent (.string "5")]

theorem mended_problems_after_save :
    (⟨"Web", .settings, .invalid [.maxTimeNotInteger]⟩ : SaveItem) ∈
      (mended.saveWith everything).1.items ∧
    ∃ keys params, ⟨"Web", keys, params⟩ ∈ (mended.saveWith everything).2.plan.settings := by
  have hreach : mended.Reachable := reachable_run_alone _ _ _ _ _
  have hr : mended.row? "Web" = some ((mended.row? "Web").get (by decide +kernel)) :=
    (Option.some_get _).symm
  have hitem : (⟨"Web", .settings, .invalid [.maxTimeNotInteger]⟩ : SaveItem) ∈
      (mended.saveWith everything).1.items := by decide +kernel
  obtain ⟨r', hr', _, _, _, _, hsent⟩ :=
    problems_after_save hreach everything hr (by decide +kernel) hitem
  have hleft : ((mended.saveWith everything).2.row? "Web").map
      (fun r => (r.problems, r.settingsChanged)) = some ([], true) := by decide +kernel
  rw [hr', Option.map_some, Option.some.injEq, Prod.mk.injEq] at hleft
  exact ⟨hitem, _, _, hsent hleft.1 hleft.2⟩

/-! ## Forms in which problems remain -/

/-- The switch of the row is made unreadable, and a wrong number is set. -/
def masked : Form := (alone "1" "-1y" "-6mon" "3600").run
  [.setSetting "Web" .enabled (.string "maybe"), .setSetting "Web" .maxTime (.string "abc")]

/-- Acceleration is turned on where the baseline has a wrong number. -/
def unmasked : Form := (alone "0" "-1y" "-6mon" "abc").run
  [.setSetting "Web" .enabled (.string "1")]

/-- The summary range is made shorter than the backfill range of the baseline. -/
def outgrown : Form := (alone "1" "-1y" "-6mon" "3600").run
  [.setSetting "Web" .earliestTime (.string "-1mon")]

/-- The baseline of the row has no problems, a save reports the row with the first ones, and after
it the row has the second ones, which the next save reports. -/
def ReportedTwice (f : Form) (first second : List Problem) : Prop :=
  (f.row? "Web").map (·.baseline.problems) = some [] ∧
  (f.saveWith everything).1.items = [⟨"Web", .settings, .invalid first⟩] ∧
  ((f.saveWith everything).2.row? "Web").map Row.problems = some second ∧
  ((f.saveWith everything).2.saveWith everything).1.items = [⟨"Web", .settings, .invalid second⟩]

instance (f : Form) (first second : List Problem) : Decidable (f.ReportedTwice first second) :=
  inferInstanceAs (Decidable (_ ∧ _))

/-- Putting back the settings that have problems does not make a row valid. -/
theorem problems_remain_after_save :
    (masked.Reachable ∧ masked.ReportedTwice [.enabledNotBoolean] [.maxTimeNotInteger]) ∧
    (unmasked.Reachable ∧ unmasked.ReportedTwice [.maxTimeNotInteger] [.maxTimeNotInteger]) ∧
    (outgrown.Reachable ∧
      outgrown.ReportedTwice [.backfillBeforeSummary] [.backfillBeforeSummary]) :=
  ⟨⟨reachable_run_alone _ _ _ _ _, by decide +kernel⟩,
    ⟨reachable_run_alone _ _ _ _ _, by decide +kernel⟩,
    ⟨reachable_run_alone _ _ _ _ _, by decide +kernel⟩⟩

end Form

end AccelForm
