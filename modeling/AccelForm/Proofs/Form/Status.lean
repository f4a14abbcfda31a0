import AccelForm.Proofs.Form.Pending
import AccelForm.Proofs.Form.Resend
import AccelForm.Proofs.Form.Rollback
/-
  What a save shows

  A status is made by going through the items of a data model one by one. That
  comes to the worst of their outcomes, in whatever order they stand: the first
  failure, or else the first problems, or else that all was saved
  (`foldl_worsen`). As a save rejects a data model at most once, the first
  problems are the only ones.

  That a status agrees with what is left to do comes from the plan made right
  after the save (`plan_whitelists_saveWith`, `plan_settings_saveWith`). It has
  a part for the data model of every failure, and where there are neither
  failures nor problems it has none.
-/

namespace AccelForm

namespace SaveOutcome

def failure? : SaveOutcome → Option String
  | failed message => some message
  | _ => none

/-- The problems for which something was not sent. -/
def problems? : SaveOutcome → Option (List Problem)
  | invalid ps => some ps
  | _ => none

variable {o : SaveOutcome}

theorem failure?_eq_some {message : String} : o.failure? = some message ↔ o = failed message := by
  cases o <;> simp [failure?]

theorem failure?_eq_none : o.failure? = none ↔ ∀ message, o ≠ failed message := by
  cases o <;> simp [failure?]

theorem problems?_eq_some {ps : List Problem} : o.problems? = some ps ↔ o = invalid ps := by
  cases o <;> simp [problems?]

/-- What neither failed nor had problems was saved. -/
theorem eq_saved (hfailure : o.failure? = none) (hproblems : o.problems? = none) : o = saved := by
  cases o with
  | saved => rfl
  | failed message => cases hfailure
  | invalid ps => cases hproblems

end SaveOutcome

namespace Status

def worst (os : List SaveOutcome) : Option Status :=
  match os.findSome? SaveOutcome.failure?, os.findSome? SaveOutcome.problems?, os with
  | some message, _, _ => some (.saveFailed message)
  | none, some ps, _ => some (.invalid ps)
  | none, none, _ :: _ => some .saved
  | none, none, [] => none

theorem worst_concat (os : List SaveOutcome) (o : SaveOutcome) :
    worst (os ++ [o]) = worsen (worst os) o := by
  unfold worst
  rw [List.findSome?_append, List.findSome?_append]
  cases os.findSome? SaveOutcome.failure? with
  | some message => rfl
  | none =>
    cases os.findSome? SaveOutcome.problems? with
    | some ps => cases o <;> rfl
    | none => cases os <;> cases o <;> rfl

theorem foldl_worsen (os : List SaveOutcome) : os.foldl worsen none = worst os := by
  -- from the right, as the outcome that is gone through last is added at the end
  induction os using List.reverseRecOn with
  | nil => rfl
  | append_singleton os o ih => rw [List.foldl_append, ih, worst_concat]; rfl

section Ranks
variable {os : List SaveOutcome}

theorem worst_of_failure {message : String}
    (h : os.findSome? SaveOutcome.failure? = some message) :
    worst os = some (.saveFailed message) := by
  unfold worst
  rw [h]

theorem worst_of_problems {ps : List Problem} (hno : os.findSome? SaveOutcome.failure? = none)
    (h : os.findSome? SaveOutcome.problems? = some ps) : worst os = some (.invalid ps) := by
  unfold worst
  rw [hno, h]

theorem worst_of_saved (h : ∀ o ∈ os, o = .saved) (hne : os ≠ []) :
    worst os = some .saved := by
  have hfailure : os.findSome? SaveOutcome.failure? = none :=
    List.findSome?_eq_none_iff.2 fun o ho => by rw [h o ho]; rfl
  have hproblems : os.findSome? SaveOutcome.problems? = none :=
    List.findSome?_eq_none_iff.2 fun o ho => by rw [h o ho]; rfl
  obtain ⟨o, os, rfl⟩ := List.exists_cons_of_ne_nil hne
  unfold worst
  rw [hfailure, hproblems]

/-- A failure is shown for one of the outcomes only. -/
theorem mem_of_worst_eq_saveFailed {message : String} (h : worst os = some (.saveFailed message)) :
    .failed message ∈ os := by
  unfold worst at h
  cases hfailure : os.findSome? SaveOutcome.failure? with
  | some first =>
    obtain rfl : first = message := by simpa [hfailure] using h
    obtain ⟨o, ho, hfirst⟩ := List.exists_of_findSome?_eq_some hfailure
    rwa [SaveOutcome.failure?_eq_some.1 hfirst] at ho
  | none =>
    cases hproblems : os.findSome? SaveOutcome.problems? with
    | some ps => simp [hfailure, hproblems] at h
    | none =>
      rw [hfailure, hproblems] at h
      cases os <;> cases h

/-- Where nothing worse is shown, all was saved. -/
theorem eq_saved_of_worst (h : worst os = some .saved ∨ worst os = none) :
    ∀ o ∈ os, o = .saved := by
  unfold worst at h
  cases hfailure : os.findSome? SaveOutcome.failure? with
  | some message => simp [hfailure] at h
  | none =>
    cases hproblems : os.findSome? SaveOutcome.problems? with
    | some ps => simp [hfailure, hproblems] at h
    | none =>
      exact fun o ho => SaveOutcome.eq_saved (List.findSome?_eq_none_iff.1 hfailure o ho)
        (List.findSome?_eq_none_iff.1 hproblems o ho)

end Ranks

end Status

/-- The status is the worst outcome that the report has for a data model. -/
structure SaveReport.Worst (report : SaveReport) (model : String) (status : Option Status) :
    Prop where
  failed : ∀ before item after message, report.items = before ++ item :: after →
    item.model = model → item.outcome = .failed message →
    (∀ earlier ∈ before, earlier.model = model → ∀ m, earlier.outcome ≠ .failed m) →
    status = some (.saveFailed message)
  invalid : (∀ item ∈ report.items, item.model = model → ∀ m, item.outcome ≠ .failed m) →
    ∀ ps, report.Rejects model ps → status = some (.invalid ps)
  saved : (∀ item ∈ report.items, item.model = model → item.outcome = .saved) →
    (∃ item ∈ report.items, item.model = model) → status = some .saved
  absent : (∀ item ∈ report.items, item.model ≠ model) → status = none

namespace SaveReport
variable {report : SaveReport} {model : String}

def outcomes (report : SaveReport) (model : String) : List SaveOutcome :=
  (report.items.filter (·.model = model)).map (·.outcome)

theorem status?_eq (report : SaveReport) (model : String) :
    report.status? model = Status.worst (report.outcomes model) := by
  rw [← Status.foldl_worsen, outcomes, List.foldl_map]
  rfl

theorem mem_outcomes {o : SaveOutcome} :
    o ∈ report.outcomes model ↔ ∃ item ∈ report.items, item.model = model ∧ item.outcome = o := by
  simp [outcomes, and_assoc]

/-- There is no failure among the items of a data model. -/
theorem findSome?_failure?_eq_none
    (h : ∀ item ∈ report.items, item.model = model → ∀ m, item.outcome ≠ .failed m) :
    (report.outcomes model).findSome? SaveOutcome.failure? = none := by
  refine List.findSome?_eq_none_iff.2 fun o ho => ?_
  obtain ⟨item, hitem, hmodel, rfl⟩ := mem_outcomes.1 ho
  exact SaveOutcome.failure?_eq_none.2 (h item hitem hmodel)

/-- Where a report rejects a data model with one list of problems only, its status is the worst
outcome. -/
theorem worst_status?
    (hunique : ∀ ps qs, report.Rejects model ps → report.Rejects model qs → ps = qs) :
    report.Worst model (report.status? model) := by
  rw [status?_eq]
  refine ⟨fun before item after message hitems hmodel hfailed hfirst => ?_,
    fun hno ps hps => ?_, fun hall hsome => ?_, fun hno => ?_⟩
  · have hfirst? : (report.outcomes model).findSome? SaveOutcome.failure? = some message := by
      have hbefore : ((before.filter (·.model = model)).map (·.outcome)).findSome?
          SaveOutcome.failure? = none :=
        findSome?_failure?_eq_none hfirst
      rw [outcomes, hitems, List.filter_append, List.map_append, List.findSome?_append, hbefore,
        List.filter_cons_of_pos (by simpa using hmodel), List.map_cons, hfailed]
      rfl
    exact Status.worst_of_failure hfirst?
  · have hmem : SaveOutcome.invalid ps ∈ report.outcomes model := mem_outcomes.2 hps
    have hproblems : (report.outcomes model).findSome? SaveOutcome.problems? = some ps := by
      have hsome : ((report.outcomes model).findSome? SaveOutcome.problems?).isSome = true :=
        List.findSome?_isSome_iff.2 ⟨_, hmem, rfl⟩
      obtain ⟨qs, hqs⟩ := Option.isSome_iff_exists.1 hsome
      obtain ⟨o, ho, hoqs⟩ := List.exists_of_findSome?_eq_some hqs
      rw [SaveOutcome.problems?_eq_some.1 hoqs] at ho
      rw [hqs, hunique ps qs hps (mem_outcomes.1 ho)]
    exact Status.worst_of_problems (findSome?_failure?_eq_none hno) hproblems
  · obtain ⟨item, hitem, hmodel⟩ := hsome
    refine Status.worst_of_saved (fun o ho => ?_)
      (List.ne_nil_of_mem (mem_outcomes.2 ⟨item, hitem, hmodel, rfl⟩))
    obtain ⟨item, hitem, hmodel, rfl⟩ := mem_outcomes.1 ho
    exact hall item hitem hmodel
  · have hempty : report.outcomes model = [] := by
      rw [outcomes, List.map_eq_nil_iff, List.filter_eq_nil_iff]
      simpa using hno
    rw [hempty]
    rfl

end SaveReport

/-- What was sent failed if the server refused it. -/
theorem SaveOutcome.ofResult_eq_failed_iff {result : UpdateResult} :
    (∃ message, ofResult result = .failed message) ↔ result.isOk = false := by
  cases result <;> simp [ofResult, Except.isOk, Except.toBool]

namespace Form
variable {f : Form} {replies : Replies} {model : String} {r : Row}

/-- A row has edits if and only if the plan has a part for its data model. -/
theorem EditsLead.isDirty_iff_mem_plan (h : EditsLead f) (hr : f.row? model = some r) :
    r.isDirty = true ↔ model ∈ f.plan.whitelists.map (·.model) ∨
      model ∈ f.plan.settings.map (·.model) ∨ model ∈ f.plan.invalid.map (·.model) := by
  rw [h.mem_whitelists_iff, h.mem_settings_iff, h.mem_invalid_iff, hr, Row.isDirty,
    Row.whitelistChanged, Row.settingsChanged]
  by_cases hp : r.attributes.problems = [] <;> simp [hp]

/-- A save rejects a data model with one list of problems. -/
theorem EditsLead.rejects_unique (h : EditsLead f) {ps qs : List Problem}
    (hps : (f.saveWith replies).1.Rejects model ps)
    (hqs : (f.saveWith replies).1.Rejects model qs) : ps = qs := by
  obtain ⟨r, hr, hrps⟩ := h.mem_plan_invalid.1 (rejects_saveWith_iff.1 hps)
  obtain ⟨r', hr', hrqs⟩ := h.mem_plan_invalid.1 (rejects_saveWith_iff.1 hqs)
  obtain rfl : r = r' := Option.some.inj (hr.symm.trans hr')
  exact congrArg InvalidChange.problems (Option.some.inj (hrps.symm.trans hrqs))

/-- After a save the status of a row is what the report says of its data model. -/
theorem status_of_mem_saveWith (hr : r ∈ (f.saveWith replies).2.rows) :
    r.status = (f.saveWith replies).1.status? r.model := by
  obtain ⟨_, _, rfl⟩ := List.mem_map.1 hr
  rfl

/-! ## Failures and what is left -/

/-- The updates that were refused, in a list with the replies. -/
theorem mem_map_refused_iff {α : Type} {name : α → String} {cs : List (α × UpdateResult)} :
    model ∈ (cs.filterMap fun c => if !c.2.isOk then some c.1 else none).map name ↔
      ∃ c ∈ cs, name c.1 = model ∧ ∃ message, SaveOutcome.ofResult c.2 = .failed message := by
  simp only [SaveOutcome.ofResult_eq_failed_iff, List.mem_map, List.mem_filterMap]
  constructor
  · rintro ⟨c, ⟨p, hp, hc⟩, rfl⟩
    split at hc
    · next hok =>
      cases hc
      exact ⟨p, hp, rfl, by simpa using hok⟩
    · cases hc
  · rintro ⟨p, hp, rfl, hok⟩
    exact ⟨p.1, ⟨p, hp, by simp [hok]⟩, rfl⟩

/-- The data models of which an update failed. -/
theorem exists_failed_iff :
    (∃ item ∈ (f.saveWith replies).1.items, item.model = model ∧
        ∃ message, item.outcome = .failed message) ↔
      model ∈ (replies.failedWhitelists f.plan).map (·.model) ∨
        model ∈ (replies.failedSettings f.plan).map (·.model) := by
  rw [Replies.failedWhitelists, Replies.failedSettings, mem_map_refused_iff, mem_map_refused_iff]
  constructor
  · rintro ⟨item, hitem, rfl, hfailed⟩
    rcases mem_items_saveWith.1 hitem with ⟨c, _, rfl⟩ | ⟨c, hc, rfl⟩ | ⟨c, hc, rfl⟩
    · obtain ⟨_, hinvalid⟩ := hfailed
      cases hinvalid
    · exact .inl ⟨c, hc, rfl, hfailed⟩
    · exact .inr ⟨c, hc, rfl, hfailed⟩
  · rintro (⟨c, hc, hmodel, hfailed⟩ | ⟨c, hc, hmodel, hfailed⟩)
    · exact ⟨_, mem_items_saveWith.2 (.inr (.inl ⟨c, hc, rfl⟩)), hmodel, hfailed⟩
    · exact ⟨_, mem_items_saveWith.2 (.inr (.inr ⟨c, hc, rfl⟩)), hmodel, hfailed⟩

/-- A row for whose data model an update failed has edits. -/
theorem Reachable.isDirty_of_failed (h : f.Reachable)
    (hr : (f.saveWith replies).2.row? model = some r)
    (hfailed : ∃ item ∈ (f.saveWith replies).1.items, item.model = model ∧
      ∃ message, item.outcome = .failed message) : r.isDirty = true := by
  have hwhitelists := plan_whitelists_saveWith h.editsLead replies
  have hsettings := plan_settings_saveWith h.editsLead replies
  rw [(h.saveWith replies).editsLead.isDirty_iff_mem_plan hr]
  rcases exists_failed_iff.1 hfailed with hm | hm
  · rw [← hwhitelists] at hm
    exact .inl hm
  · rw [← hsettings] at hm
    obtain ⟨c, hc, hmodel⟩ := List.mem_map.1 hm
    exact .inr (.inl (List.mem_map.2 ⟨c, (List.mem_filter.1 hc).1, hmodel⟩))

/-- A row has no edits left if no update for its data model failed and it was not rejected. -/
theorem Reachable.isDirty_eq_false_of_saved (h : f.Reachable)
    (hr : (f.saveWith replies).2.row? model = some r)
    (hall : ∀ item ∈ (f.saveWith replies).1.items, item.model = model → item.outcome = .saved) :
    r.isDirty = false := by
  have hwhitelists := plan_whitelists_saveWith h.editsLead replies
  have hsettings := plan_settings_saveWith h.editsLead replies
  have hfailed : ¬ ∃ item ∈ (f.saveWith replies).1.items, item.model = model ∧
      ∃ message, item.outcome = .failed message := by
    rintro ⟨item, hitem, hmodel, message, hfailed⟩
    rw [hall item hitem hmodel] at hfailed
    cases hfailed
  rw [exists_failed_iff, ← hwhitelists, ← hsettings, not_or] at hfailed
  have hinvalid : model ∉ f.plan.invalid.map (·.model) := by
    intro hm
    obtain ⟨c, hc, rfl⟩ := List.mem_map.1 hm
    obtain ⟨item, hitem, hmodel, houtcome⟩ := rejects_saveWith_iff.2 hc
    rw [hall item hitem hmodel] at houtcome
    cases houtcome
  rw [← Bool.not_eq_true, (h.saveWith replies).editsLead.isDirty_iff_mem_plan hr]
  rintro (hm | hm | hm)
  · exact hfailed.1 hm
  · -- the data model was not set apart, so the update would be one of those that failed
    obtain ⟨c, hc, rfl⟩ := List.mem_map.1 hm
    exact hfailed.2 (List.mem_map.2 ⟨c, List.mem_filter.2 ⟨hc, by simpa using hinvalid⟩, rfl⟩)
  · exact hinvalid (mem_models_invalid_settle h.editsLead hm)

/-- After a save, whatever the server replies, the status of a row is the worst outcome that the
report has for its data model. The first row of a name has edits if a failure is shown for it, and
none if it is shown as saved or nothing is shown. -/
theorem save_shows_worst {σ : Type} (h : f.Reachable) (b : Backend (StateM σ)) (s : σ) :
    (∀ r ∈ ((f.save b).run s).1.2.rows, ((f.save b).run s).1.1.Worst r.model r.status) ∧
    ∀ model r, ((f.save b).run s).1.2.row? model = some r →
      (∀ message, r.status = some (.saveFailed message) → r.isDirty = true) ∧
      (r.status = some .saved ∨ r.status = none → r.isDirty = false) := by
  obtain ⟨replies, hsave⟩ := exists_saveWith b f s
  rw [hsave]
  have hworst : ∀ r ∈ (f.saveWith replies).2.rows,
      (f.saveWith replies).1.Worst r.model r.status := by
    intro r hr
    rw [status_of_mem_saveWith hr]
    exact SaveReport.worst_status? fun ps qs => h.editsLead.rejects_unique
  refine ⟨hworst, fun model r hr => ?_⟩
  have hmodel : r.model = model := model_of_row? hr
  have hstatus : r.status = Status.worst ((f.saveWith replies).1.outcomes model) := by
    rw [status_of_mem_saveWith (List.mem_of_find?_eq_some hr), hmodel, SaveReport.status?_eq]
  rw [hstatus]
  refine ⟨fun message hmessage => ?_, fun hclean => ?_⟩
  · obtain ⟨item, hitem, heq, hfailed⟩ :=
      SaveReport.mem_outcomes.1 (Status.mem_of_worst_eq_saveFailed hmessage)
    exact h.isDirty_of_failed hr ⟨item, hitem, heq, message, hfailed⟩
  · refine h.isDirty_eq_false_of_saved hr fun item hitem heq => ?_
    exact Status.eq_saved_of_worst hclean _ (SaveReport.mem_outcomes.2 ⟨item, hitem, heq, rfl⟩)

/-- A backend that fails to update the macro of one data model. -/
def withoutEmail : Backend (StateM Unit) :=
  { steadyBackend (.ok "") ⟨[], [], [], []⟩ with
    updateMacro := fun name _ =>
      pure (if name = "cim_Email_indexes" then .error (.timeout ⟨0⟩) else .ok ()) }

/-- Of a data model with a problem and a failed whitelist the failure is shown, and its row keeps
the edit; the rows of the other data model are shown as saved, and the first of them has no edits. -/
theorem crowd_save_shows_worst :
    let saved := ((crowd.save withoutEmail).run ()).1
    crowd.Reachable ∧ saved.1.Rejects "Email" [.maxTimeNotInteger] ∧
    (∀ r ∈ saved.2.rows, saved.1.Worst r.model r.status) ∧
    saved.2.rows.map (fun r => (r.model, r.status)) =
      [("Web", some .saved), ("Email", some (.saveFailed (Rest.Fault.timeout ⟨0⟩).message)),
        ("Web", some .saved)] ∧
    (∀ r, saved.2.row? "Email" = some r → r.isDirty = true) ∧
    ∀ r, saved.2.row? "Web" = some r → r.isDirty = false := by
  have hreach : crowd.Reachable := (Reachable.load (loaded_ofAssets _ _ _)).run _
  obtain ⟨hworst, hdirty⟩ := save_shows_worst hreach withoutEmail ()
  have hemail : (((crowd.save withoutEmail).run ()).1.2.row? "Email").map (·.status) =
      some (some (.saveFailed (Rest.Fault.timeout ⟨0⟩).message)) := by decide +kernel
  have hweb : (((crowd.save withoutEmail).run ()).1.2.row? "Web").map (·.status) =
      some (some .saved) := by decide +kernel
  refine ⟨hreach, by decide +kernel, hworst, by decide +kernel, fun r hr => ?_, fun r hr => ?_⟩
  · rw [hr, Option.map_some, Option.some.injEq] at hemail
    exact (hdirty "Email" r hr).1 _ hemail
  · rw [hr, Option.map_some, Option.some.injEq] at hweb
    exact (hdirty "Web" r hr).2 (.inl hweb)

end Form

end AccelForm
