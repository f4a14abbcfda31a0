import AccelForm.Form.View
import AccelForm.Proofs.Form.Distinct
import Mathlib.Logic.Basic
/-
  What is pending

  Whether something is to be saved is said three times: by the flag of the
  form, by the flags of the rows as they are shown, and by the plan. All three
  come down to the rows (`isEmpty_plan_iff`, `isDirty_eq_false_iff`,
  `views_clean_iff`), because a row has a part in the plan exactly if it has
  edits.

  The plan names data models, not rows, and several rows may have one name.
  In a reachable form the names in each part of the plan are those of first
  rows, at increasing places (`InRowOrder`), so what the plan says of a name
  is what the row says that the form finds by it (`plan_mirrors_rows`).
-/

namespace AccelForm

namespace Row

theorem isSome_whitelistChange? (r : Row) : r.whitelistChange?.isSome = r.whitelistChanged := by
  unfold whitelistChange? whitelistChanged
  cases hm : r.macroName with
  | none => rfl
  | some name => by_cases hw : r.whitelist = r.savedWhitelist <;> simp [hw]

theorem isSome_settingsChange? (features : Features) (r : Row) :
    (r.settingsChange? features).isSome = (r.settingsChanged && r.problems.isEmpty) := by
  unfold settingsChange?
  cases r.settingsChanged && r.problems.isEmpty <;> rfl

theorem isSome_invalidChange? (r : Row) :
    r.invalidChange?.isSome = (r.settingsChanged && !r.problems.isEmpty) := by
  unfold invalidChange?
  cases r.settingsChanged && !r.problems.isEmpty <;> rfl

/-- A row has no part in a plan exactly if it has no edits. -/
theorem no_change_iff (features : Features) (r : Row) :
    r.whitelistChange? = none ∧ r.settingsChange? features = none ∧ r.invalidChange? = none ↔
      r.isDirty = false := by
  refine ⟨fun ⟨hw, hs, hi⟩ => ?_, fun h => no_change_of_clean h features⟩
  have hwhitelist := r.isSome_whitelistChange?
  have hsettings := r.isSome_settingsChange? features
  have hinvalid := r.isSome_invalidChange?
  rw [hw] at hwhitelist
  rw [hs] at hsettings
  rw [hi] at hinvalid
  rw [isDirty, ← hwhitelist]
  -- settings that were changed would be in one of the two parts
  cases hc : r.settingsChanged with
  | false => rfl
  | true =>
    rw [hc] at hsettings hinvalid
    cases hp : r.problems.isEmpty <;> simp [hp] at hsettings hinvalid

end Row

namespace Form
variable {f : Form}

/-! ## Whether anything is pending -/

theorem isEmpty_plan_iff (f : Form) :
    f.plan.isEmpty = true ↔ ∀ r ∈ f.rows, r.isDirty = false := by
  simp only [plan, Plan.isEmpty, Bool.and_eq_true, List.isEmpty_iff, List.filterMap_eq_nil_iff]
  constructor
  · rintro ⟨⟨hw, hs⟩, hi⟩ r hr
    exact (r.no_change_iff f.features).1 ⟨hw r hr, hs r hr, hi r hr⟩
  · intro h
    have hnone := fun r hr => (Row.no_change_iff f.features r).2 (h r hr)
    exact ⟨⟨fun r hr => (hnone r hr).1, fun r hr => (hnone r hr).2.1⟩, fun r hr => (hnone r hr).2.2⟩

theorem isDirty_eq_false_iff (f : Form) :
    f.isDirty = false ↔ ∀ r ∈ f.rows, r.isDirty = false := by
  simp [isDirty]

theorem views_clean_iff (f : Form) :
    (∀ v ∈ f.views, v.isDirty = false) ↔ ∀ r ∈ f.rows, r.isDirty = false := by
  have hflags : f.views.map RowView.isDirty = f.rows.map Row.isDirty := by
    apply List.ext_getElem
    · simp [views]
    · intro n hn hn'
      simp [views, viewAt, Row.view]
  have hall := congrArg (fun flags => ∀ b ∈ flags, b = false) hflags
  simpa using hall

/-! ## In which order -/

/-- The data models are those of first rows at increasing places. -/
def InRowOrder (f : Form) (models : List String) : Prop :=
  ∃ places : List Nat, places.Pairwise (· < ·) ∧ models.map f.position? = places.map some

/-- Names of first rows, behind another row whose name is not among them. -/
theorem findIdx?_cons_of_not_mem {r : Row} {rows : List Row} {models : List String}
    (h : r.model ∉ models) :
    models.map (fun model => (r :: rows).findIdx? (·.model == model)) =
      (models.map fun model => rows.findIdx? (·.model == model)).map (Option.map (· + 1)) := by
  rw [List.map_map]
  refine List.map_congr_left fun model hmodel => ?_
  have hne : r.model ≠ model := fun heq => h (heq ▸ hmodel)
  simp [List.findIdx?_cons, hne]

/-- What is picked from rows that have edits names them in their order. -/
theorem EditsLead.inRowOrder (h : EditsLead f) {α : Type} {pick : Row → Option α}
    {name : α → String} (hpick : ∀ r c, pick r = some c → name c = r.model ∧ r.isDirty = true) :
    f.InRowOrder ((f.rows.filterMap pick).map name) := by
  unfold EditsLead at h
  unfold InRowOrder position?
  generalize f.rows = rows at h
  induction rows with
  | nil => exact ⟨[], .nil, rfl⟩
  | cons r rest ih =>
    rw [List.pairwise_cons] at h
    obtain ⟨places, hsorted, hplaces⟩ := ih h.2
    -- no row of the rest that has edits has the name of this one
    have hnot : r.model ∉ (rest.filterMap pick).map name := by
      intro hm
      obtain ⟨c, hc, hname⟩ := List.mem_map.1 hm
      obtain ⟨later, hlater, hpicked⟩ := List.mem_filterMap.1 hc
      obtain ⟨hmodel, hdirty⟩ := hpick later c hpicked
      rw [h.1 later hlater (hname.symm.trans hmodel)] at hdirty
      cases hdirty
    have hshift : ((rest.filterMap pick).map name).map
        (fun model => (r :: rest).findIdx? (·.model == model)) =
          (places.map (· + 1)).map some := by
      rw [findIdx?_cons_of_not_mem hnot, hplaces, List.map_map, List.map_map]
      rfl
    have hlater : (places.map (· + 1)).Pairwise (· < ·) :=
      hsorted.map _ fun _ _ => Nat.succ_lt_succ
    cases hp : pick r with
    | none =>
      rw [List.filterMap_cons_none hp]
      exact ⟨places.map (· + 1), hlater, hshift⟩
    | some c =>
      rw [List.filterMap_cons_some hp, List.map_cons, List.map_cons, hshift]
      refine ⟨0 :: places.map (· + 1), List.pairwise_cons.2 ⟨by simp, hlater⟩, ?_⟩
      rw [List.map_cons, List.findIdx?_cons, (hpick r c hp).1, if_pos (beq_self_eq_true _)]

/-! ## What is said of a name -/

/-- The names in a part of the plan are those of first rows that have a part in it. -/
theorem mem_map_model_iff {α : Type} {changes : List α} {name : α → String} {pick : Row → Option α}
    (hname : ∀ r c, pick r = some c → name c = r.model)
    (hmem : ∀ c, c ∈ changes ↔ ∃ r, f.row? (name c) = some r ∧ pick r = some c) (model : String) :
    model ∈ changes.map name ↔ ∃ r, f.row? model = some r ∧ (pick r).isSome = true := by
  rw [List.mem_map]
  constructor
  · rintro ⟨c, hc, rfl⟩
    obtain ⟨r, hr, hpick⟩ := (hmem c).1 hc
    exact ⟨r, hr, by rw [hpick]; rfl⟩
  · rintro ⟨r, hr, hpick⟩
    obtain ⟨c, hc⟩ := Option.isSome_iff_exists.1 hpick
    have hmodel : name c = model := (hname r c hc).trans (model_of_row? hr)
    exact ⟨c, (hmem c).2 ⟨r, hmodel ▸ hr, hc⟩, hmodel⟩

section Names
variable (h : EditsLead f) (model : String)

include h

theorem EditsLead.mem_whitelists_iff : model ∈ f.plan.whitelists.map (·.model) ↔
    ∃ r, f.row? model = some r ∧ r.macroName.isSome = true ∧ r.whitelist ≠ r.savedWhitelist := by
  rw [mem_map_model_iff (fun r c hc => (Row.whitelistChange?_eq_some hc).2.1)
    fun c => h.mem_plan_whitelists]
  simp [Row.isSome_whitelistChange?, Row.whitelistChanged]

theorem EditsLead.mem_settings_iff : model ∈ f.plan.settings.map (·.model) ↔
    ∃ r, f.row? model = some r ∧ r.baseline.differs r.attributes = true ∧
      r.attributes.problems = [] := by
  rw [mem_map_model_iff (fun r c hc => by rw [(Row.settingsChange?_eq_some hc).2.2])
    fun c => h.mem_plan_settings]
  simp [Row.isSome_settingsChange?, Row.settingsChanged, Row.problems]

theorem EditsLead.mem_invalid_iff : model ∈ f.plan.invalid.map (·.model) ↔
    ∃ r, f.row? model = some r ∧ r.baseline.differs r.attributes = true ∧
      r.attributes.problems ≠ [] := by
  rw [mem_map_model_iff (fun r c hc => by rw [(Row.invalidChange?_eq_some hc).2.2])
    fun c => h.mem_plan_invalid]
  simp [Row.isSome_invalidChange?, Row.settingsChanged, Row.problems]

/-- Settings that differ from what was saved are in exactly one of two parts of the plan. -/
theorem EditsLead.xor_mem_iff :
    Xor (model ∈ f.plan.settings.map (·.model)) (model ∈ f.plan.invalid.map (·.model)) ↔
      ∃ r, f.row? model = some r ∧ r.baseline.differs r.attributes = true := by
  rw [h.mem_settings_iff, h.mem_invalid_iff]
  cases f.row? model with
  | none => simp [Xor]
  | some r => by_cases hp : r.attributes.problems = [] <;> simp [Xor, hp]

end Names

/-- The plan, the flag of the form and the flags of its rows agree, and so do the plan and the rows.
The plan is empty exactly if the form has no edits, and exactly if no row is shown as edited. Each
part of it names data models in the order of their first rows. A whitelist is in it exactly if the
row has a macro and its whitelist is not the saved one. Settings are in it exactly if they differ
from the saved ones, and in exactly one of its two parts: to be sent if they have no problems, and
listed as invalid otherwise. -/
theorem plan_mirrors_rows (h : f.Reachable) :
    ((f.plan.isEmpty = true ↔ f.isDirty = false) ∧
      (f.isDirty = false ↔ ∀ v ∈ f.views, v.isDirty = false)) ∧
    (f.InRowOrder (f.plan.whitelists.map (·.model)) ∧
      f.InRowOrder (f.plan.settings.map (·.model)) ∧
      f.InRowOrder (f.plan.invalid.map (·.model))) ∧
    ∀ model,
      (model ∈ f.plan.whitelists.map (·.model) ↔ ∃ r, f.row? model = some r ∧
        r.macroName.isSome = true ∧ r.whitelist ≠ r.savedWhitelist) ∧
      (Xor (model ∈ f.plan.settings.map (·.model)) (model ∈ f.plan.invalid.map (·.model)) ↔
        ∃ r, f.row? model = some r ∧ r.baseline.differs r.attributes = true) ∧
      (model ∈ f.plan.settings.map (·.model) ↔ ∃ r, f.row? model = some r ∧
        r.baseline.differs r.attributes = true ∧ r.attributes.problems = []) ∧
      (model ∈ f.plan.invalid.map (·.model) ↔ ∃ r, f.row? model = some r ∧
        r.baseline.differs r.attributes = true ∧ r.attributes.problems ≠ []) := by
  have hlead := h.editsLead
  refine ⟨⟨?_, ?_⟩, ⟨?_, ?_, ?_⟩, fun model => ⟨hlead.mem_whitelists_iff model,
    hlead.xor_mem_iff model, hlead.mem_settings_iff model, hlead.mem_invalid_iff model⟩⟩
  · rw [isEmpty_plan_iff, isDirty_eq_false_iff]
  · rw [isDirty_eq_false_iff, views_clean_iff]
  · refine hlead.inRowOrder fun r c hc => ?_
    obtain ⟨hchanged, hmodel, _⟩ := Row.whitelistChange?_eq_some hc
    exact ⟨hmodel, by simp [Row.isDirty, hchanged]⟩
  · refine hlead.inRowOrder fun r c hc => ?_
    obtain ⟨hchanged, _, rfl⟩ := Row.settingsChange?_eq_some hc
    exact ⟨rfl, by simp [Row.isDirty, hchanged]⟩
  · refine hlead.inRowOrder fun r c hc => ?_
    obtain ⟨hchanged, _, rfl⟩ := Row.invalidChange?_eq_some hc
    exact ⟨rfl, by simp [Row.isDirty, hchanged]⟩

/-- In the crowded form two whitelists are pending, one data model is to be sent and one is
invalid, although a later row has the name of the first. -/
theorem crowd_plan_mirrors_rows :
    crowd.Reachable ∧ crowd.models = ["Web", "Email", "Web"] ∧
    crowd.InRowOrder ["Web", "Email"] ∧ crowd.isDirty = true ∧
    ¬ (∀ v ∈ crowd.views, v.isDirty = false) ∧
    ∃ r, crowd.row? "Email" = some r ∧ r.attributes.problems ≠ [] := by
  have hreach : crowd.Reachable := (Reachable.load (loaded_ofAssets _ _ _)).run _
  have hwhitelists : crowd.plan.whitelists.map (·.model) = ["Web", "Email"] := by decide +kernel
  have hinvalid : "Email" ∈ crowd.plan.invalid.map (·.model) := by decide +kernel
  have hdirty : crowd.isDirty = true := by decide +kernel
  obtain ⟨⟨_, hviews⟩, ⟨horder, _⟩, hnames⟩ := plan_mirrors_rows hreach
  obtain ⟨r, hr, _, hproblems⟩ := (hnames "Email").2.2.2.1 hinvalid
  refine ⟨hreach, by decide +kernel, hwhitelists ▸ horder, hdirty, fun hclean => ?_,
    r, hr, hproblems⟩
  rw [hviews.2 hclean] at hdirty
  cases hdirty

end Form

end AccelForm
