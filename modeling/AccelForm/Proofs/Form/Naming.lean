import AccelForm.Proofs.Form.Settle
/-
  The names of the rows

  No operation renames a row or gives it another macro. So the names of the
  rows are for good those of the data models that the server listed, each as
  often as it was listed there (`models_run`): two rows share a name exactly if
  the server repeats one, and then for good (`twins_share_name`). Macros never
  make a second row, however often their names are repeated.
-/

namespace AccelForm

namespace Row

theorem Edit.model_eq {features : Features} {r r' : Row} (h : Edit features r r') :
    r'.model = r.model := by
  cases h <;> rfl

theorem Edit.macroName_eq {features : Features} {r r' : Row} (h : Edit features r r') :
    r'.macroName = r.macroName := by
  cases h <;> rfl

/-- The names of the rows are those of the data models, each as often as there. -/
theorem map_model_pair_perm (macros : List Rest.SearchMacro) (models : List Rest.DataModel) :
    ((pair macros models).map Row.model).Perm (models.map (·.name)) := by
  obtain ⟨turns, left, h⟩ := exists_turns macros models
  have htaken : (turns.filterMap ofTurn?).map Row.model =
      (turns.filterMap Prod.snd).map (·.name) := by
    rw [List.map_filterMap, List.map_filterMap]
    refine List.filterMap_congr fun t _ => ?_
    rw [ofTurn?, Option.map_map]
    rfl
  have hrows : (pair macros models).map Row.model =
      (turns.filterMap Prod.snd ++ left).map (·.name) := by
    rw [h.pair_eq, List.map_append, List.map_append, htaken, List.map_map]
    rfl
  rw [hrows]
  exact h.perm.map _

end Row

namespace Form
variable {f : Form}

theorem models_perform (h : f.Reachable) (op : Operation) : (f.perform op).models = f.models :=
  map_rows_perform (fun hr => hr.model_eq) (fun _ => Answer.settled_model _ _) h.editsLead op

theorem models_run_of_reachable (h : f.Reachable) (ops : List Operation) :
    (f.run ops).models = f.models := by
  induction ops generalizing f with
  | nil => rfl
  | cons op ops ih => exact (ih (h.perform op)).trans (models_perform h op)

/-- Through every run the rows keep their names, which are those of the data models that were
loaded, each as often as there. They are distinct exactly if those are. -/
theorem models_run (version : Except Rest.Fault String) (displayLimit : Nat) (assets : Assets)
    (ops : List Operation) :
    ((ofAssets (releaseOf version) displayLimit assets).run ops).models =
        (ofAssets (releaseOf version) displayLimit assets).models ∧
      ((ofAssets (releaseOf version) displayLimit assets).run ops).models.Perm
        (assets.models.map (·.name)) ∧
      (((ofAssets (releaseOf version) displayLimit assets).run ops).models.Nodup ↔
        (assets.models.map (·.name)).Nodup) := by
  have hreach : (ofAssets (releaseOf version) displayLimit assets).Reachable :=
    .load (loaded_ofAssets version displayLimit assets)
  have hkept := models_run_of_reachable hreach ops
  have hperm : (ofAssets (releaseOf version) displayLimit assets).models.Perm
      (assets.models.map (·.name)) := Row.map_model_pair_perm assets.macros assets.models
  rw [hkept]
  exact ⟨rfl, hperm, hperm.nodup_iff⟩

/-- A form may have two rows of one name, and has them for good. -/
theorem twins_share_name : twins.Loaded ∧ ∀ ops, ¬ (twins.run ops).models.Nodup := by
  refine ⟨twins_loaded, fun ops => ?_⟩
  rw [models_run_of_reachable (.load twins_loaded)]
  decide +kernel

/-! ## The names of the macros -/

/-- The macro of a row, if it has one, is named after its data model. -/
theorem Reachable.macroName_eq (h : f.Reachable) : ∀ r ∈ f.rows, ∀ name,
    r.macroName = some name → Whitelist.macroName r.model = name := by
  refine h.forall_rows (P := fun _ r => ∀ name, r.macroName = some name →
    Whitelist.macroName r.model = name) ?_ ?_ ?_
  · intro _ _ _ r hr name hname
    rcases Row.mem_pair hr with ⟨dm, rfl⟩ | ⟨m, dm, hm, rfl⟩
    · cases hname
    · exact hm.trans (Option.some.inj hname)
  · intro _ r r' hedit hr name hname
    rw [hedit.macroName_eq] at hname
    rw [hedit.model_eq]
    exact hr name hname
  · intro _ a _ ha name hname
    simp only [Answer.settled_macroName] at hname
    simp only [Answer.settled_model]
    exact ha name hname

end Form

end AccelForm
