import AccelForm.Proofs.Form.Settle
/-
  What is left after a save

  The plan made right after a save holds the updates that failed, in order and
  as they were, and nothing else of the data models that were sent
  (`plan_after_save`): what succeeded has become the baseline, a comparison
  finds no difference between a bag and itself, and no row but its own is
  touched by the reply to an update. Data models that were not sent because of
  their problems may have edits left; they are set apart by name.
-/

namespace AccelForm

namespace Replies

def failedWhitelists (replies : Replies) (p : Plan) : List WhitelistChange :=
  (p.whitelists.zip (replies.toWhitelists p)).filterMap fun c =>
    if !c.2.isOk then some c.1 else none

def failedSettings (replies : Replies) (p : Plan) : List SettingsChange :=
  (p.settings.zip (replies.toSettings p)).filterMap fun c => if !c.2.isOk then some c.1 else none

end Replies

namespace Answer
variable (features : Features) (a : Answer) (status : Option Status)

/-- A whitelist that was taken over is no longer to be sent, any other one is as it was. -/
theorem whitelistChange?_settled :
    Row.whitelistChange? { a.settled features with status } =
      if a.acceptedWhitelist?.isSome then none else a.row.whitelistChange? := by
  unfold Row.whitelistChange? Row.whitelistChanged
  simp only [settled_macroName, settled_whitelist, settled_savedWhitelist, settled_model]
  cases a.acceptedWhitelist? with
  | none => rfl
  | some c => cases a.row.macroName <;> simp

/-- Settings that were taken over are no longer to be sent, any others are as they were. -/
theorem settingsChange?_settled (h : a.row.invalidChange? = none) :
    Row.settingsChange? features { a.settled features with status } =
      if (a.acceptedSettings? features).isSome then none else a.row.settingsChange? features := by
  have hattributes : a.row.reverted.attributes = a.row.attributes := by rw [Row.reverted, h]
  unfold Row.settingsChange? Row.settingsChanged Row.problems
  simp only [settled_attributes, hattributes, settled_baseline, settled_model]
  cases a.acceptedSettings? features with
  | none => rfl
  | some c => simp [Bag.differs, Bag.same_refl]

/-- Settings that were not invalid are not invalid after the save. -/
theorem invalidChange?_settled (h : a.row.invalidChange? = none) :
    Row.invalidChange? { a.settled features with status } = none := by
  have hattributes : a.row.reverted.attributes = a.row.attributes := by rw [Row.reverted, h]
  unfold Row.invalidChange? Row.settingsChanged Row.problems at h ⊢
  simp only [settled_attributes, hattributes, settled_baseline, settled_model]
  cases a.acceptedSettings? features with
  | none => exact h
  | some c => simp [Bag.differs, Bag.same_refl]

end Answer

namespace Form
variable {f : Form} {ws ss : List UpdateResult}

theorem plan_whitelists_settle (h : EditsLead f)
    (hws : f.plan.whitelists.length ≤ ws.length) :
    (f.settle ws ss).2.plan.whitelists =
      (answers f.features f.rows ws ss).filterMap (·.whitelistIf (!·.isOk)) := by
  show (f.settle ws ss).2.rows.filterMap Row.whitelistChange? = _
  rw [settle_rows h, List.filterMap_map]
  refine List.filterMap_congr fun a ha => ?_
  rw [Function.comp_apply, Answer.whitelistChange?_settled, Answer.acceptedWhitelist?,
    Answer.whitelistIf, Answer.whitelistIf]
  cases hc : a.row.whitelistChange? with
  | none => simp
  | some c =>
    obtain ⟨reply, hreply⟩ := Option.isSome_iff_exists.1 (isSome_toWhitelist hws ha (by simp [hc]))
    cases hok : reply.isOk <;> simp [hreply, hok]

/-- Settings that are to be sent are of no data model that is not sent because of its problems. -/
theorem EditsLead.not_mem_invalid (h : EditsLead f) {c : SettingsChange}
    (hc : c ∈ f.plan.settings) : c.model ∉ f.plan.invalid.map (·.model) := by
  intro hm
  obtain ⟨d, hd, hmodel⟩ := List.mem_map.1 hm
  obtain ⟨r, hr, hrc⟩ := h.mem_plan_settings.1 hc
  obtain ⟨r', hr', hrd⟩ := h.mem_plan_invalid.1 hd
  -- both are made from the first row of the name, which cannot have problems and have none
  rw [hmodel, hr, Option.some.injEq] at hr'
  obtain ⟨_, hp, _⟩ := Row.invalidChange?_eq_some hrd
  exact hp (hr' ▸ (Row.settingsChange?_eq_some hrc).2.1)

/-- Of the data models that were sent, the settings whose updates failed are left. -/
theorem plan_settings_settle (h : EditsLead f)
    (hss : f.plan.settings.length ≤ ss.length) :
    (f.settle ws ss).2.plan.settings.filter (·.model ∉ f.plan.invalid.map (·.model)) =
      (answers f.features f.rows ws ss).filterMap (·.settingsIf f.features (!·.isOk)) := by
  show ((f.settle ws ss).2.rows.filterMap
    (Row.settingsChange? (f.settle ws ss).2.features)).filter _ = _
  rw [settle_eq_with_rows]
  dsimp only
  rw [settle_rows h, List.filterMap_map, List.filter_filterMap]
  refine List.filterMap_congr fun a ha => ?_
  have hrow : a.row ∈ f.rows := mem_of_mem_answers ha
  -- a row with problems may be sent after it was put back, but then its name is set apart
  rw [Function.comp_apply]
  cases hinvalid : a.row.invalidChange? with
  | some d =>
    obtain ⟨_, hp, hd⟩ := Row.invalidChange?_eq_some hinvalid
    have hmem : a.row.model ∈ f.plan.invalid.map (·.model) :=
      List.mem_map.2 ⟨d, List.mem_filterMap.2 ⟨a.row, hrow, hinvalid⟩, by rw [hd]⟩
    have hno : a.row.settingsChange? f.features = none := by simp [Row.settingsChange?, hp]
    rw [Answer.settingsIf, hno, ite_self]
    rw [Option.filter_eq_none_iff]
    intro c hc
    obtain ⟨_, _, rfl⟩ := Row.settingsChange?_eq_some hc
    simpa using hmem
  | none =>
    rw [Answer.settingsChange?_settled _ _ _ hinvalid, Answer.acceptedSettings?,
      Answer.settingsIf, Answer.settingsIf]
    cases hc : a.row.settingsChange? f.features with
    | none => simp
    | some c =>
      have hmem := h.not_mem_invalid (List.mem_filterMap.2 ⟨a.row, hrow, hc⟩)
      obtain ⟨reply, hreply⟩ :=
        Option.isSome_iff_exists.1 (isSome_toSettings hss ha (by simp [hc]))
      cases hok : reply.isOk <;> simp [hreply, hok, Option.filter, hmem]

theorem plan_whitelists_saveWith (h : EditsLead f) (replies : Replies) :
    (f.saveWith replies).2.plan.whitelists = replies.failedWhitelists f.plan :=
  (plan_whitelists_settle h (by simp [Replies.toWhitelists])).trans
    (filterMap_whitelistIf (!·.isOk)).symm

theorem plan_settings_saveWith (h : EditsLead f) (replies : Replies) :
    (f.saveWith replies).2.plan.settings.filter (·.model ∉ f.plan.invalid.map (·.model)) =
      replies.failedSettings f.plan :=
  (plan_settings_settle h (by simp [Replies.toSettings])).trans
    (filterMap_settingsIf (!·.isOk)).symm

/-- A save makes no data model invalid that was not. -/
theorem mem_models_invalid_settle (h : EditsLead f) {model : String}
    (hm : model ∈ (f.settle ws ss).2.plan.invalid.map (·.model)) :
    model ∈ f.plan.invalid.map (·.model) := by
  obtain ⟨c, hc, rfl⟩ := List.mem_map.1 hm
  change c ∈ (f.settle ws ss).2.rows.filterMap Row.invalidChange? at hc
  rw [settle_rows h, List.filterMap_map] at hc
  obtain ⟨a, ha, hac⟩ := List.mem_filterMap.1 hc
  have hmodel : c.model = a.row.model := by
    rw [(Row.invalidChange?_eq_some hac).2.2]
    exact a.settled_model f.features
  cases hinvalid : a.row.invalidChange? with
  | none =>
    rw [Function.comp_apply, Answer.invalidChange?_settled _ _ _ hinvalid] at hac
    cases hac
  | some d =>
    obtain ⟨_, _, rfl⟩ := Row.invalidChange?_eq_some hinvalid
    have hrow : a.row ∈ f.rows := mem_of_mem_answers ha
    exact hmodel ▸ List.mem_map.2 ⟨_, List.mem_filterMap.2 ⟨a.row, hrow, hinvalid⟩, rfl⟩

/-- Where nothing is invalid, a save makes nothing invalid. -/
theorem plan_invalid_settle (h : EditsLead f) (hinvalid : f.plan.invalid = []) :
    (f.settle ws ss).2.plan.invalid = [] := by
  refine List.eq_nil_iff_forall_not_mem.2 fun c hc => ?_
  have hm := mem_models_invalid_settle h (List.mem_map_of_mem hc)
  rw [hinvalid] at hm
  cases hm

theorem save_of_isEmpty {m : Type → Type} [Monad m] [LawfulMonad m] (b : Backend m)
    (h : f.plan.isEmpty = true) : f.save b = pure (f.settle [] []) := by
  simp only [Plan.isEmpty, Bool.and_eq_true, List.isEmpty_iff] at h
  obtain ⟨⟨hw, hs⟩, _⟩ := h
  simp [save, hw, hs]

/-- The plan made right after a save holds the updates that failed, as they were and in order, and
of the data models that were sent nothing else. If nothing was invalid and nothing failed, there is
nothing to do, and a further save asks nothing of any backend. -/
theorem plan_after_save (h : f.Reachable) (replies : Replies) :
    (f.saveWith replies).2.plan.whitelists = replies.failedWhitelists f.plan ∧
    (f.saveWith replies).2.plan.settings.filter (·.model ∉ f.plan.invalid.map (·.model)) =
      replies.failedSettings f.plan ∧
    (f.plan.invalid = [] → replies.failedWhitelists f.plan = [] →
      replies.failedSettings f.plan = [] →
        (f.saveWith replies).2.plan.isEmpty = true ∧
        ∀ {m : Type → Type} [Monad m] [LawfulMonad m] (b : Backend m),
          (f.saveWith replies).2.save b = pure ((f.saveWith replies).2.settle [] [])) := by
  have hlead := h.editsLead
  have hw := plan_whitelists_saveWith hlead replies
  have hs := plan_settings_saveWith hlead replies
  refine ⟨hw, hs, fun hinvalid hnow hnos => ?_⟩
  have hempty : (f.saveWith replies).2.plan.isEmpty = true := by
    have hi : (f.saveWith replies).2.plan.invalid = [] := plan_invalid_settle hlead hinvalid
    -- no data model is set apart, so all settings of the plan are among those that failed
    rw [hnos, List.filter_eq_self.2 (by simp [hinvalid])] at hs
    simp [Plan.isEmpty, hw, hnow, hs, hi]
  exact ⟨hempty, fun b => save_of_isEmpty b hempty⟩

theorem twins_plan_after_save :
    onlyWhitelists.failedSettings (twins.run twinEdits).plan =
      [⟨"Web", ["acceleration.max_time"], [("acceleration", "0"), ("acceleration.max_time", "60"),
        ("acceleration.manual_rebuilds", "0")]⟩] ∧
    onlyWhitelists.failedWhitelists (twins.run twinEdits).plan = [] ∧
    ((twins.run twinEdits).saveWith onlyWhitelists).2.plan.settings.filter
        (·.model ∉ (twins.run twinEdits).plan.invalid.map (·.model)) =
      onlyWhitelists.failedSettings (twins.run twinEdits).plan ∧
    ((twins.run twinEdits).saveWith everything).2.plan.isEmpty = true :=
  have hreach : (twins.run twinEdits).Reachable := (Reachable.load twins_loaded).run _
  have hinvalid : (twins.run twinEdits).plan.invalid = [] := by decide +kernel
  ⟨by decide +kernel, by decide +kernel, (plan_after_save hreach onlyWhitelists).2.1,
    ((plan_after_save hreach everything).2.2 hinvalid (by decide +kernel) (by decide +kernel)).1⟩

end Form

end AccelForm
