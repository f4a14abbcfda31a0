import AccelForm.Proofs.Form.Distinct
import AccelForm.Proofs.Form.Recovery
/-
  What a save puts back

  A save puts settings back while it goes through a list of rejected data
  models by name, and for each of them through its problems. What comes of it
  is said here row by row (`save_rolls_back`): where the report rejects a data
  model, exactly the attributes that have a problem are as in the baseline, and
  elsewhere the attributes are as they were. Rows may share a name with a row
  that was rejected; such a row is unedited, so that both are true of it.
-/

namespace AccelForm

/-- Whether a report says of a data model that its settings have these problems. -/
def SaveReport.Rejects (report : SaveReport) (model : String) (ps : List Problem) : Prop :=
  ∃ item ∈ report.items, item.model = model ∧ item.outcome = .invalid ps

instance (report : SaveReport) (model : String) (ps : List Problem) :
    Decidable (report.Rejects model ps) :=
  inferInstanceAs (Decidable (∃ item ∈ report.items,
    item.model = model ∧ item.outcome = .invalid ps))

/-- What a save with such a report may have put back in a row. -/
structure Row.RolledBack (report : SaveReport) (r r' : Row) : Prop where
  model : r'.model = r.model
  whitelist : r'.whitelist = r.whitelist
  rejected : ∀ ps, report.Rejects r.model ps → r'.baseline = r.baseline ∧
    ∀ k, r'.attributes.get? k =
      if k ∈ ps.map (·.setting.attributeName) then r.baseline.get? k else r.attributes.get? k
  accepted : (∀ ps, ¬ report.Rejects r.model ps) → r'.attributes = r.attributes
  unchanged : r.settingsChanged = false → r'.attributes = r.attributes

namespace Row

theorem invalidChange?_eq_none_of_unchanged {r : Row} (h : r.settingsChanged = false) :
    r.invalidChange? = none := by
  simp [invalidChange?, h]

end Row

namespace Answer
variable {features : Features} {a : Answer}

/-- Settings that are not rejected stay as they are. -/
theorem settled_attributes_of_valid (h : a.row.invalidChange? = none) :
    (a.settled features).attributes = a.row.attributes := by
  rw [settled_attributes, Row.reverted, h]

/-- Of settings that are rejected, those with problems are put back. -/
theorem get?_settled_of_invalid {c : InvalidChange} (h : a.row.invalidChange? = some c)
    (k : String) :
    (a.settled features).attributes.get? k =
      if k ∈ c.problems.map (·.setting.attributeName) then a.row.baseline.get? k
      else a.row.attributes.get? k := by
  rw [settled_attributes, Row.reverted, h]
  exact a.row.get?_revert c.problems k

end Answer

namespace Form
variable {f : Form} {replies : Replies} {model : String}

/-- A save rejects what its plan lists as invalid. -/
theorem rejects_saveWith_iff {ps : List Problem} :
    (f.saveWith replies).1.Rejects model ps ↔ ⟨model, ps⟩ ∈ f.plan.invalid := by
  refine ⟨?_, fun h => ⟨_, mem_items_invalid.2 h, rfl, rfl⟩⟩
  rintro ⟨item, hitem, rfl, hinvalid⟩
  rcases mem_items_saveWith.1 hitem with ⟨c, hc, rfl⟩ | ⟨c, _, rfl⟩ | ⟨c, _, rfl⟩
  · cases hinvalid
    exact hc
  · exact absurd hinvalid (SaveOutcome.ofResult_ne_invalid c.2 ps)
  · exact absurd hinvalid (SaveOutcome.ofResult_ne_invalid c.2 ps)

/-- A row is the one that the form finds by its name, or it is unedited. -/
theorem LaterUnedited.eq_or_unedited (h : LaterUnedited f) {r x : Row} (hr : r ∈ f.rows)
    (hx : f.row? r.model = some x) : r = x ∨ r.Unedited := by
  obtain ⟨hmodel, before, after, hrows, hbefore⟩ := List.find?_eq_some_iff_append.1 hx
  unfold LaterUnedited at h
  rw [hrows] at h hr
  rcases List.mem_append.1 hr with hr | hr
  · simpa using hbefore r hr
  · rcases List.mem_cons.1 hr with rfl | hr
    · exact .inl rfl
    · have hlater := (List.pairwise_cons.1 (List.pairwise_append.1 h).2.1).1 r hr
      exact .inr (hlater (by simpa using hmodel))

/-- A row of a name that is rejected has itself these problems, or it is unedited. -/
theorem Reachable.invalid_or_unedited (h : f.Reachable) {r : Row} (hr : r ∈ f.rows)
    {ps : List Problem} (hps : (f.saveWith replies).1.Rejects r.model ps) :
    r.invalidChange? = some ⟨r.model, ps⟩ ∨ r.Unedited := by
  obtain ⟨x, hx, hinvalid⟩ := h.editsLead.mem_plan_invalid.1 (rejects_saveWith_iff.1 hps)
  rcases h.laterUnedited.eq_or_unedited hr hx with rfl | hunedited
  · exact .inl hinvalid
  · exact .inr hunedited

theorem rolledBack_settled (h : f.Reachable) {a : Answer} (ha : a ∈ f.answersTo replies)
    (status : Option Status) :
    a.row.RolledBack (f.saveWith replies).1 { a.settled f.features with status } := by
  have hr : a.row ∈ f.rows := mem_of_mem_answers ha
  refine ⟨a.settled_model f.features, a.settled_whitelist f.features, fun ps hps => ?_,
    fun hno => ?_, fun hsame => ?_⟩
  · rcases h.invalid_or_unedited hr hps with hinvalid | hunedited
    · exact ⟨Answer.settled_baseline_of_invalid hinvalid, Answer.get?_settled_of_invalid hinvalid⟩
    · -- nothing is put back, and nothing would change if it were
      have hsettled : a.settled f.features = a.row :=
        Answer.settled_of_clean hunedited.isDirty_eq_false f.features
      refine ⟨?_, fun k => ?_⟩
      · show (a.settled f.features).baseline = a.row.baseline
        rw [hsettled]
      · show (a.settled f.features).attributes.get? k = _
        rw [hsettled, hunedited.2, ite_self]
  · refine Answer.settled_attributes_of_valid ?_
    by_contra hsome
    obtain ⟨c, hc⟩ := Option.ne_none_iff_exists'.1 hsome
    obtain ⟨_, _, rfl⟩ := Row.invalidChange?_eq_some hc
    exact hno _ (rejects_saveWith_iff.2 (List.mem_filterMap.2 ⟨a.row, hr, hc⟩))
  · exact Answer.settled_attributes_of_valid (Row.invalidChange?_eq_none_of_unchanged hsame)

theorem selectedModel?_eq (f : Form) : f.selectedModel? = f.selected.bind (f.models[·]?) := by
  unfold selectedModel? models
  simp only [List.getElem?_map]

/-- Whatever the server replies to a save, of each row that the report rejects exactly the
attributes that have a problem end as in the baseline, which stays, and the others keep their
values; the attributes of any other row stay as they are. No whitelist changes, and neither does the
selection. -/
theorem save_rolls_back {σ : Type} (h : f.Reachable) (b : Backend (StateM σ)) (s : σ) :
    List.Forall₂ (Row.RolledBack ((f.save b).run s).1.1) f.rows ((f.save b).run s).1.2.rows ∧
    ((f.save b).run s).1.2.selected = f.selected ∧
    ((f.save b).run s).1.2.selectedModel? = f.selectedModel? := by
  obtain ⟨replies, hsave⟩ := exists_saveWith b f s
  rw [hsave]
  have hselected : (f.saveWith replies).2.selected = f.selected := by
    show (f.settle _ _).2.selected = f.selected
    rw [settle_eq_with_rows]
  refine ⟨?_, hselected, ?_⟩
  · have hsettled : (f.saveWith replies).2.rows = (f.answersTo replies).map fun a =>
        { a.settled f.features with status := (f.saveWith replies).1.status? a.row.model } :=
      settle_rows h.editsLead _ _
    have hrows : List.Forall₂ (Row.RolledBack (f.saveWith replies).1)
        ((f.answersTo replies).map Answer.row) (f.saveWith replies).2.rows := by
      rw [hsettled, List.forall₂_map_left_iff, List.forall₂_map_right_iff]
      refine List.forall₂_same.2 fun a ha => ?_
      exact rolledBack_settled h ha _
    rwa [map_row_answersTo] at hrows
  · have hmodels : (f.saveWith replies).2.models = f.models := models_perform h (.save replies)
    rw [selectedModel?_eq, selectedModel?_eq, hselected, hmodels]

/-- A form with two edits of a row that are both absent from its baseline, one of them with a
problem. -/
def crowdEdited : Form := crowd.perform (.setSetting "Email" .maxConcurrent (.string "5"))

/-- The edit with the problem is taken out again and the other one stays. -/
theorem crowdEdited_save_rolls_back :
    let saved := ((crowdEdited.save (steadyBackend (.ok "") ⟨[], [], [], []⟩)).run ()).1
    crowdEdited.Reachable ∧ saved.1.Rejects "Email" [.maxTimeNotInteger] ∧
      List.Forall₂ (Row.RolledBack saved.1) crowdEdited.rows saved.2.rows ∧
      (saved.2.row? "Email").map (fun r => (r.attributes.get? Setting.maxTime.attributeName,
        r.attributes.get? Setting.maxConcurrent.attributeName)) =
          some (none, some (.string "5")) := by
  have hreach : crowdEdited.Reachable :=
    ((Reachable.load (loaded_ofAssets _ _ _)).run _).perform _
  exact ⟨hreach, by decide +kernel, (save_rolls_back hreach _ ()).1, by decide +kernel⟩

end Form

end AccelForm
