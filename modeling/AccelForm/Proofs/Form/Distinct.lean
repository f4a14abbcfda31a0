import AccelForm.Proofs.Form.Naming
import Mathlib.Data.List.Nodup
/-
  The updates of a save

  A save makes the updates of its plan, each once: `Backend.noted` is any
  backend with a list at its side of what is changed through it, and after a
  save the list is that of the plan, whatever the server says
  (`run_save_noted`).

  No two of these updates change the same thing (`updates_distinct`), although
  rows may share a name and macros may be listed twice. What a plan asks for
  comes from rows that have edits, these are the first of their names, and a
  macro belongs to the name that it is named after. So the order in which the
  server sees the updates of one save does not matter.
-/

namespace AccelForm

/-- What an update changes on the server. -/
inductive Subject where
  | searchMacro (name : String)
  | dataModel (name : String)
  deriving DecidableEq, Repr

/-- What the updates of a plan change, in the order in which they are sent. -/
def Plan.subjects (p : Plan) : List Subject :=
  (p.whitelists.map (·.macroName)).map .searchMacro ++ (p.settings.map (·.model)).map .dataModel

/-! ## Noting what is changed -/

namespace Backend
variable {m : Type → Type} [Monad m]

def noting {α : Type} (subject : Subject) (change : m α) : StateT (List Subject) m α := do
  modify (· ++ [subject])
  change

/-- The backend with a list at its side of what its updates change. -/
def noted (b : Backend m) : Backend (StateT (List Subject) m) where
  hasCapability capability := b.hasCapability capability
  serverVersion := b.serverVersion
  searchMacros := b.searchMacros
  indexes := b.indexes
  dataModels := b.dataModels
  tags := b.tags
  updateMacro name definition := noting (.searchMacro name) (b.updateMacro name definition)
  updateDataModel name params := noting (.dataModel name) (b.updateDataModel name params)

variable [LawfulMonad m]

@[simp] theorem run_noting {α : Type} (subject : Subject) (change : m α) (list : List Subject) :
    (noting subject change).run list = (fun a => (a, list ++ [subject])) <$> change := by
  simp [noting]

theorem run_mapM_noting {α β : Type} (subject : α → Subject) (change : α → m β) (l : List α)
    (list : List Subject) :
    (l.mapM fun a => noting (subject a) (change a)).run list =
      (fun results => (results, list ++ l.map subject)) <$> l.mapM change := by
  induction l generalizing list with
  | nil => simp
  | cons a l ih => simp [List.mapM_cons, ih]

end Backend

namespace Form
variable {f : Form}

/-- A save makes the updates of its plan in order and no others. -/
theorem run_save_noted {m : Type → Type} [Monad m] [LawfulMonad m] (f : Form) (b : Backend m) :
    (f.save b.noted).run [] = (fun result => (result, f.plan.subjects)) <$> f.save b := by
  simp [save, Backend.noted, Backend.run_mapM_noting, Plan.subjects, Function.comp_def]

/-! ## Distinct subjects -/

/-- What is picked from rows that have edits, under names that tell the names of the rows apart. -/
theorem EditsLead.nodup_map_filterMap (h : EditsLead f) {α β : Type} {pick : Row → Option α}
    {name : α → β} {key : String → β} (hkey : Function.Injective key)
    (hdirty : ∀ r c, pick r = some c → r.isDirty = true)
    (hname : ∀ r ∈ f.rows, ∀ c, pick r = some c → name c = key r.model) :
    ((f.rows.filterMap pick).map name).Nodup := by
  unfold List.Nodup
  rw [List.pairwise_map, List.pairwise_filterMap]
  refine List.Pairwise.imp_of_mem ?_ h
  intro r later hr hlater hlead c hc d hd heq
  have hmodel : r.model = later.model := by
    apply hkey
    rw [← hname r hr c hc, ← hname later hlater d hd, heq]
  have hclean := hlead hmodel
  rw [hdirty later d hd] at hclean
  cases hclean

theorem nodup_macroName_whitelists (h : f.Reachable) :
    (f.plan.whitelists.map (·.macroName)).Nodup := by
  refine h.editsLead.nodup_map_filterMap Whitelist.macroName_injective ?_ ?_
  · intro r c hc
    simp [Row.isDirty, (Row.whitelistChange?_eq_some hc).1]
  · intro r hr c hc
    obtain ⟨_, _, hname, _⟩ := Row.whitelistChange?_eq_some hc
    exact (h.macroName_eq r hr c.macroName hname).symm

theorem EditsLead.nodup_model_settings (h : EditsLead f) :
    (f.plan.settings.map (·.model) ++ f.plan.invalid.map (·.model)).Nodup := by
  rw [List.nodup_append]
  refine ⟨?_, ?_, ?_⟩
  · refine h.nodup_map_filterMap Function.injective_id ?_ ?_
    · intro r c hc
      simp [Row.isDirty, (Row.settingsChange?_eq_some hc).1]
    · rintro r _ c hc
      obtain ⟨_, _, rfl⟩ := Row.settingsChange?_eq_some hc
      rfl
  · refine h.nodup_map_filterMap Function.injective_id ?_ ?_
    · intro r c hc
      simp [Row.isDirty, (Row.invalidChange?_eq_some hc).1]
    · rintro r _ c hc
      obtain ⟨_, _, rfl⟩ := Row.invalidChange?_eq_some hc
      rfl
  · -- one and the same row would have problems and have none
    rintro _ hsent _ hinvalid rfl
    obtain ⟨c, hc, hmodel⟩ := List.mem_map.1 hsent
    obtain ⟨d, hd, heq⟩ := List.mem_map.1 hinvalid
    obtain ⟨r, hr, hrc⟩ := h.mem_plan_settings.1 hc
    obtain ⟨r', hr', hrd⟩ := h.mem_plan_invalid.1 hd
    rw [heq, ← hmodel, hr, Option.some.injEq] at hr'
    subst hr'
    exact (Row.invalidChange?_eq_some hrd).2.1 (Row.settingsChange?_eq_some hrc).2.1

/-- The updates of one save change distinct things: no two whitelists of a plan have the same macro,
and no two data models of it, those with problems among them, have the same name. For a row behind
another one of its name has exactly its saved values. -/
theorem updates_distinct {m : Type → Type} [Monad m] [LawfulMonad m] (h : f.Reachable)
    (b : Backend m) :
    ((f.save b.noted).run [] = (fun result => (result, f.plan.subjects)) <$> f.save b ∧
      f.plan.subjects.Nodup) ∧
    (f.plan.whitelists.map (·.macroName)).Nodup ∧
    (f.plan.settings.map (·.model) ++ f.plan.invalid.map (·.model)).Nodup ∧
    f.rows.Pairwise fun r later => r.model = later.model →
      later.whitelist = later.savedWhitelist ∧ later.attributes = later.baseline := by
  have hmacros := nodup_macroName_whitelists h
  have hmodels := h.editsLead.nodup_model_settings
  have hsubjects : f.plan.subjects.Nodup := by
    refine List.nodup_append.2 ⟨?_, ?_, ?_⟩
    · exact hmacros.map fun _ _ => Subject.searchMacro.inj
    · exact (List.nodup_append.1 hmodels).1.map fun _ _ => Subject.dataModel.inj
    · intro s hs t ht heq
      obtain ⟨_, _, rfl⟩ := List.mem_map.1 hs
      obtain ⟨_, _, rfl⟩ := List.mem_map.1 ht
      cases heq
  exact ⟨⟨f.run_save_noted b, hsubjects⟩, hmacros, hmodels, h.laterUnedited⟩

/-- A form in which a model and a macro are listed more than once, with edits of two whitelists and
of the settings of two data models, of which one has a problem. -/
def crowd : Form :=
  (ofAssets (releaseOf (.error (.timeout ⟨0⟩))) 70
    { macros := [⟨"cim_Web_indexes", "(index=web)", none, false⟩,
        ⟨"cim_Email_indexes", "()", none, false⟩, ⟨"cim_Web_indexes", "()", none, false⟩]
      indexes := []
      models := [⟨"Email", .ofList [("acceleration", .string "1")]⟩,
        ⟨"Web", .ofList [("acceleration", .string "0")]⟩,
        ⟨"Web", .ofList [("acceleration", .string "1")]⟩]
      tags := [] }).run
    [.setWhitelist "Web" "main", .setWhitelist "Email" "mail",
      .setSetting "Web" .maxTime (.string "60"), .setSetting "Email" .maxTime (.string "soon")]

theorem crowd_updates_distinct :
    crowd.models = ["Web", "Email", "Web"] ∧
    crowd.plan.subjects =
      [.searchMacro "cim_Web_indexes", .searchMacro "cim_Email_indexes", .dataModel "Web"] ∧
    crowd.plan.invalid.map (·.model) = ["Email"] ∧
    (crowd.plan.settings.map (·.model) ++ crowd.plan.invalid.map (·.model)).Nodup := by
  have hreach : crowd.Reachable := (Reachable.load (loaded_ofAssets _ _ _)).run _
  refine ⟨by decide +kernel, by decide +kernel, by decide +kernel, ?_⟩
  exact (updates_distinct hreach (steadyBackend (.ok "") ⟨[], [], [], []⟩)).2.2.1

end Form

end AccelForm
