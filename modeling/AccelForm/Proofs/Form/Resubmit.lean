import AccelForm.Form.View
import AccelForm.Proofs.Form.Settle
import AccelForm.Proofs.Whitelist.Display
/-
  Whitelists that are shown and set again

  Every whitelist of a reachable form is in its normal spelling: what a
  definition is read to is, what a user types is put into it, and discarding
  and saving only copy one whitelist over the other (`Row.Tidy`). So to set a
  whitelist to what is shown changes nothing, and a whitelist that is set is
  sent as it was typed, names that are blank left out (`setWhitelist_shown`).
-/

namespace AccelForm

namespace Row

/-- The whitelists of the row are in their normal spelling, and without a macro they are one. -/
structure Tidy (r : Row) : Prop where
  whitelist : Whitelist.tidy r.whitelist = r.whitelist
  savedWhitelist : Whitelist.tidy r.savedWhitelist = r.savedWhitelist
  fixed : r.macroName = none → r.whitelist = r.savedWhitelist

theorem tidy_of_mem_pair {macros : List Rest.SearchMacro} {models : List Rest.DataModel} {r : Row}
    (h : r ∈ pair macros models) : r.Tidy := by
  rcases mem_pair h with ⟨dm, rfl⟩ | ⟨m, dm, _, rfl⟩
  · exact ⟨rfl, rfl, fun _ => rfl⟩
  · have htidy := Whitelist.tidy_decode m.definition
    exact ⟨htidy, htidy, fun _ => rfl⟩

theorem Tidy.edit {features : Features} {r r' : Row} (h : r.Tidy) (hedit : Edit features r r') :
    r'.Tidy := by
  cases hedit with
  | keep => exact h
  | whitelist hm display =>
    refine ⟨Whitelist.tidy_tidy display, h.savedWhitelist, fun hnone => ?_⟩
    rw [hnone] at hm
    cases hm
  | setting _ _ => exact ⟨h.whitelist, h.savedWhitelist, h.fixed⟩
  | tags _ _ => exact ⟨h.whitelist, h.savedWhitelist, h.fixed⟩
  | discard => exact ⟨h.savedWhitelist, h.savedWhitelist, fun _ => rfl⟩

end Row

theorem Row.Tidy.settled {features : Features} {a : Answer} (h : a.row.Tidy)
    (status : Option Status) : Row.Tidy { a.settled features with status } := by
  have hsaved : (a.settled features).savedWhitelist = a.row.whitelist ∨
      (a.settled features).savedWhitelist = a.row.savedWhitelist := by
    rw [Answer.settled_savedWhitelist]
    split
    · exact .inl rfl
    · exact .inr rfl
  constructor
  · simpa using h.whitelist
  · show Whitelist.tidy (a.settled features).savedWhitelist = (a.settled features).savedWhitelist
    rcases hsaved with heq | heq
    · rw [heq, h.whitelist]
    · rw [heq, h.savedWhitelist]
  · intro hnone
    simp only [Answer.settled_macroName] at hnone
    show (a.settled features).whitelist = (a.settled features).savedWhitelist
    rcases hsaved with heq | heq
    · rw [heq, Answer.settled_whitelist]
    · rw [heq, Answer.settled_whitelist, h.fixed hnone]

namespace Form
variable {f : Form} {model : String} {r : Row}

theorem Reachable.tidy (h : f.Reachable) : ∀ r ∈ f.rows, r.Tidy :=
  h.forall_rows (P := fun _ r => r.Tidy) Row.tidy_of_mem_pair (fun hedit hr => hr.edit hedit)
    (fun status hr => hr.settled status)

/-! ## Setting a whitelist -/

theorem row?_update {change : Row → Row} (hmodel : ∀ r, (change r).model = r.model) :
    (f.update model change).row? model = (f.row? model).map change := by
  show (updateFirst model change f.rows).find? (·.model == model) =
    (f.rows.find? (·.model == model)).map change
  induction f.rows with
  | nil => rfl
  | cons x rest ih =>
    unfold updateFirst
    by_cases hx : x.model = model
    · simp [hx, hmodel]
    · simpa [hx] using ih

theorem setWhitelist_of_row? (hr : f.row? model = some r) (display : String) :
    f.setWhitelist model display =
      if r.macroName.isNone then .error (.noWhitelist model)
      else .ok (f.update model fun r => { r with whitelist := Whitelist.tidy display }) := by
  unfold setWhitelist
  rw [row_eq_ok_iff.2 hr]
  rfl

theorem view_eq_ok {v : RowView} (h : f.view model = .ok v) :
    ∃ place r, f.row? model = some r ∧ v = f.viewAt place r := by
  unfold view at h
  split at h
  · next place r _ hr =>
    cases h
    exact ⟨place, r, hr, rfl⟩
  · cases h

/-- What a plan says of the whitelist of a data model is made from the row found by its name. -/
theorem definition_of_mem_plan (h : f.Reachable) (hr : f.row? model = some r)
    {c : WhitelistChange} (hc : c ∈ f.plan.whitelists) (hmodel : c.model = model) :
    r.macroName = some c.macroName ∧
      c.definition = Whitelist.encode (Whitelist.split r.whitelist) := by
  obtain ⟨r', hr', hchange⟩ := h.editsLead.mem_plan_whitelists.1 hc
  rw [hmodel, hr, Option.some.injEq] at hr'
  subst hr'
  obtain ⟨_, _, hname, hdefinition⟩ := Row.whitelistChange?_eq_some hchange
  exact ⟨hname, hdefinition⟩

theorem perform_setWhitelist_of_none (hr : f.row? model = some r) (hm : r.macroName = none)
    (display : String) : f.perform (.setWhitelist model display) = f := by
  simp [perform, setWhitelist_of_row? hr, hm, Except.toOption]

theorem row?_perform_setWhitelist {name : String} (hr : f.row? model = some r)
    (hm : r.macroName = some name) (display : String) :
    (f.perform (.setWhitelist model display)).row? model =
      some { r with whitelist := Whitelist.tidy display } := by
  have hset : f.perform (.setWhitelist model display) =
      f.update model fun r => { r with whitelist := Whitelist.tidy display } := by
    simp [perform, setWhitelist_of_row? hr, hm, Except.toOption]
  have hmodel : ∀ r : Row, ({ r with whitelist := Whitelist.tidy display } : Row).model = r.model :=
    fun _ => rfl
  rw [hset, row?_update hmodel, hr]
  rfl

/-- After a whitelist was set, to any text, it is the saved one or the plan has a definition for it,
and then the definition has the names of the text. -/
theorem plan_after_setWhitelist (h : f.Reachable) (hr : f.row? model = some r) (display : String) :
    ∃ r', (f.perform (.setWhitelist model display)).row? model = some r' ∧
      (r'.whitelist = r'.savedWhitelist ∨ ∃ name,
        ⟨model, name, Whitelist.encode (Whitelist.split display)⟩ ∈
          (f.perform (.setWhitelist model display)).plan.whitelists) ∧
      ∀ c ∈ (f.perform (.setWhitelist model display)).plan.whitelists, c.model = model →
        c.definition = Whitelist.encode (Whitelist.split display) := by
  have hnext : (f.perform (.setWhitelist model display)).Reachable := h.perform _
  cases hm : r.macroName with
  | none =>
    -- the whitelist cannot be set, and there is nothing to send
    rw [perform_setWhitelist_of_none hr hm]
    refine ⟨r, hr, .inl ((h.tidy r (List.mem_of_find?_eq_some hr)).fixed hm), ?_⟩
    intro c hc hmodel
    have hname := (definition_of_mem_plan h hr hc hmodel).1
    rw [hm] at hname
    cases hname
  | some name =>
    have hrow := row?_perform_setWhitelist hr hm display
    refine ⟨_, hrow, ?_, ?_⟩
    · by_cases hsaved : Whitelist.tidy display = r.savedWhitelist
      · exact .inl hsaved
      · refine .inr ⟨name, hnext.editsLead.mem_plan_whitelists.2 ⟨_, hrow, ?_⟩⟩
        simp [Row.whitelistChange?, Row.whitelistChanged, hm, hsaved, model_of_row? hr,
          Whitelist.split_tidy]
    · intro c hc hmodel
      rw [(definition_of_mem_plan hnext hrow hc hmodel).2, Whitelist.split_tidy]

/-- The whitelists of a form are in their normal spelling. To set the one that is shown of a row
with a macro leaves the form as it is, and after another was set it is the saved one or the plan
sends what was typed. -/
theorem setWhitelist_shown (h : f.Reachable) :
    (∀ r ∈ f.rows, Whitelist.tidy r.whitelist = r.whitelist ∧
      Whitelist.tidy r.savedWhitelist = r.savedWhitelist) ∧
    ∀ model v, f.view model = .ok v →
      (v.macroName.isSome = true → f.setWhitelist model v.whitelist = .ok f ∧
        ∀ display, ∃ f', f.setWhitelist model display = .ok f') ∧
      ∀ display, ∃ r', (f.perform (.setWhitelist model display)).row? model = some r' ∧
        (r'.whitelist = r'.savedWhitelist ∨ ∃ name,
          ⟨model, name, Whitelist.encode (Whitelist.split display)⟩ ∈
            (f.perform (.setWhitelist model display)).plan.whitelists) ∧
        ∀ c ∈ (f.perform (.setWhitelist model display)).plan.whitelists, c.model = model →
          c.definition = Whitelist.encode (Whitelist.split display) := by
  refine ⟨fun r hr => ⟨(h.tidy r hr).whitelist, (h.tidy r hr).savedWhitelist⟩, ?_⟩
  intro model v hv
  obtain ⟨place, r, hr, rfl⟩ := view_eq_ok hv
  refine ⟨?_, plan_after_setWhitelist h hr⟩
  intro hm
  have hset : ∀ display, f.setWhitelist model display =
      .ok (f.update model fun r => { r with whitelist := Whitelist.tidy display }) := by
    intro display
    have hsome : r.macroName.isNone = false := by simpa [viewAt, Row.view] using hm
    rw [setWhitelist_of_row? hr, hsome]
    rfl
  refine ⟨?_, fun display => ⟨_, hset display⟩⟩
  rw [hset, Except.ok.injEq]
  show ({ f with rows := updateFirst model _ f.rows } : Form) = f
  rw [updateFirst_eq_self]
  intro r' hr'
  have hsame : r = r' := Option.some.inj (hr.symm.trans hr')
  subst hsame
  have htidy := (h.tidy r (List.mem_of_find?_eq_some hr)).whitelist
  show ({ r with whitelist := Whitelist.tidy r.whitelist } : Row) = r
  rw [htidy]

theorem twins_setWhitelist_shown :
    (twins.run twinEdits).setWhitelist "Web" "main,web" = .ok (twins.run twinEdits) ∧
    ((twins.run twinEdits).perform (.setWhitelist "Web" " dns,, mail")).plan.whitelists ≠ [] ∧
    ∀ c ∈ ((twins.run twinEdits).perform (.setWhitelist "Web" " dns,, mail")).plan.whitelists,
      c.model = "Web" → c.definition = "(index=dns OR index=mail)" := by
  have hreach : (twins.run twinEdits).Reachable := (Reachable.load twins_loaded).run _
  have hshown : ((twins.run twinEdits).view "Web").toOption.map
      (fun v => (v.macroName, v.whitelist)) = some (some "cim_Web_indexes", "main,web") := by
    decide +kernel
  cases hv : (twins.run twinEdits).view "Web" with
  | error e =>
    rw [hv] at hshown
    cases hshown
  | ok v =>
    rw [hv] at hshown
    obtain ⟨hm, hw⟩ : v.macroName = some "cim_Web_indexes" ∧ v.whitelist = "main,web" := by
      simpa [Except.toOption] using hshown
    obtain ⟨hsame, hnext⟩ := (setWhitelist_shown hreach).2 "Web" v hv
    have hset := (hsame (by rw [hm]; rfl)).1
    obtain ⟨_, _, _, hplan⟩ := hnext " dns,, mail"
    rw [hw] at hset
    exact ⟨hset, by decide +kernel, hplan⟩

end Form

end AccelForm
