import AccelForm.Form.Backend
import AccelForm.Proofs.Attribute.Order
import AccelForm.Proofs.Form.Edit
/-
  Forms whose attributes stand in another order

  Two forms may differ only in the order in which their rows hold the edited
  attributes (`Reordered`). They have the same problems, and their plans differ
  only in the order of the changed names, which are shown but not sent. So they
  are saved by the same calls in the same order and with the same report
  (`save_eq`), whatever the backend.
-/

namespace AccelForm

namespace Row

/-- Whether two rows differ only in the order of their edited attributes. -/
def Reordered (r r' : Row) : Prop :=
  ∃ b, r.attributes.Reordered b ∧ r' = { r with attributes := b }

namespace Reordered
variable {r r' : Row}

theorem refl (r : Row) : r.Reordered r := ⟨r.attributes, rfl, rfl⟩

theorem model_eq (h : r.Reordered r') : r.model = r'.model := by
  obtain ⟨b, _, rfl⟩ := h
  rfl

theorem macroName_eq (h : r.Reordered r') : r.macroName = r'.macroName := by
  obtain ⟨b, _, rfl⟩ := h
  rfl

theorem problems_eq (h : r.Reordered r') : r.problems = r'.problems := by
  obtain ⟨b, hb, rfl⟩ := h
  exact hb.problems_eq

theorem settingsChanged_eq (h : r.Reordered r') : r.settingsChanged = r'.settingsChanged := by
  obtain ⟨b, hb, rfl⟩ := h
  exact Bag.Reordered.differs_eq rfl hb

theorem whitelistChange?_eq (h : r.Reordered r') : r.whitelistChange? = r'.whitelistChange? := by
  obtain ⟨b, _, rfl⟩ := h
  rfl

theorem invalidChange?_eq (h : r.Reordered r') : r.invalidChange? = r'.invalidChange? := by
  rw [invalidChange?, invalidChange?, h.settingsChanged_eq, h.problems_eq, h.model_eq]

end Reordered

end Row

namespace SettingsChange

def sent (c : SettingsChange) : String × List (String × String) := (c.model, c.params)

end SettingsChange

theorem Row.Reordered.settingsChange?_sent_eq {r r' : Row} (h : r.Reordered r')
    (features : Features) : (r.settingsChange? features).map SettingsChange.sent =
      (r'.settingsChange? features).map SettingsChange.sent := by
  have hparams : r.attributes.params features = r'.attributes.params features := by
    obtain ⟨b, hb, rfl⟩ := h
    exact hb.params_eq features
  unfold settingsChange?
  rw [h.settingsChanged_eq, h.problems_eq, h.model_eq, hparams]
  split <;> rfl

/-- Whether two plans differ only in the order in which changed names are listed. -/
structure Plan.Reordered (p p' : Plan) : Prop where
  whitelists : p.whitelists = p'.whitelists
  settings : p.settings.map SettingsChange.sent = p'.settings.map SettingsChange.sent
  invalid : p.invalid = p'.invalid

namespace Form

/-- Whether two forms differ only in the order of edited attributes. -/
def Reordered (f f' : Form) : Prop :=
  ∃ rows, List.Forall₂ Row.Reordered f.rows rows ∧ f' = { f with rows := rows }

namespace Reordered
variable {f f' : Form}

theorem refl (f : Form) : f.Reordered f :=
  ⟨f.rows, List.forall₂_same.2 fun r _ => .refl r, rfl⟩

theorem features_eq (h : f.Reordered f') : f.features = f'.features := by
  obtain ⟨rows, _, rfl⟩ := h
  rfl

end Reordered

/-! ## Looking up and changing rows -/

theorem find?_map_eq {α : Type} {rows rows' : List Row} (h : List.Forall₂ Row.Reordered rows rows')
    (model : String) {look : Row → α} (hlook : ∀ {r r'}, r.Reordered r' → look r = look r') :
    (rows.find? (·.model == model)).map look = (rows'.find? (·.model == model)).map look := by
  induction h with
  | nil => rfl
  | @cons r r' _ _ hr _ ih =>
    rw [List.find?_cons, List.find?_cons, ← hr.model_eq]
    split
    · exact congrArg some (hlook hr)
    · exact ih

theorem forall₂_reordered_updateFirst {rows rows' : List Row}
    (h : List.Forall₂ Row.Reordered rows rows') (model : String) {change change' : Row → Row}
    (hchange : ∀ {r r'}, r.Reordered r' → (change r).Reordered (change' r')) :
    List.Forall₂ Row.Reordered (updateFirst model change rows)
      (updateFirst model change' rows') := by
  induction h with
  | nil => exact .nil
  | @cons r r' _ _ hr hrest ih =>
    unfold updateFirst
    rw [← hr.model_eq]
    split
    · exact .cons (hchange hr) hrest
    · exact .cons hr ih

/-- What is picked from the rows of both is the same if it is from any two of them. -/
theorem filterMap_eq_of_forall₂ {α : Type} {rows rows' : List Row} {pick : Row → Option α}
    (h : List.Forall₂ Row.Reordered rows rows')
    (hpick : ∀ {r r'}, r.Reordered r' → pick r = pick r') :
    rows.filterMap pick = rows'.filterMap pick := by
  induction h with
  | nil => rfl
  | cons hr _ ih => rw [List.filterMap_cons, List.filterMap_cons, hpick hr, ih]

namespace Reordered
variable {f f' : Form}

theorem row?_map_eq {α : Type} (h : f.Reordered f') (model : String) {look : Row → α}
    (hlook : ∀ {r r'}, r.Reordered r' → look r = look r') :
    (f.row? model).map look = (f'.row? model).map look := by
  obtain ⟨rows, hrows, rfl⟩ := h
  exact find?_map_eq hrows model hlook

theorem update (h : f.Reordered f') (model : String) {change change' : Row → Row}
    (hchange : ∀ {r r'}, r.Reordered r' → (change r).Reordered (change' r')) :
    (f.update model change).Reordered (f'.update model change') := by
  obtain ⟨rows, hrows, rfl⟩ := h
  exact ⟨_, forall₂_reordered_updateFirst hrows model hchange, rfl⟩

/-! ## Saving -/

theorem plan (h : f.Reordered f') : f.plan.Reordered f'.plan := by
  obtain ⟨rows, hrows, rfl⟩ := h
  refine ⟨filterMap_eq_of_forall₂ hrows Row.Reordered.whitelistChange?_eq, ?_,
    filterMap_eq_of_forall₂ hrows Row.Reordered.invalidChange?_eq⟩
  show (f.rows.filterMap _).map _ = (rows.filterMap _).map _
  rw [List.map_filterMap, List.map_filterMap]
  exact filterMap_eq_of_forall₂ hrows fun hr => hr.settingsChange?_sent_eq f.features

end Reordered

end Form

/-- A report tells such plans apart as little as the server does. -/
theorem Plan.Reordered.ofResults_eq {p p' : Plan} (h : p.Reordered p')
    (whitelists settings : List UpdateResult) :
    SaveReport.ofResults p whitelists settings = SaveReport.ofResults p' whitelists settings := by
  -- the items on settings are made from what is sent, and that is the same
  have hitems (cs : List SettingsChange) :
      (cs.zip settings).map (fun e => (⟨e.1.model, .settings, .ofResult e.2⟩ : SaveItem)) =
        ((cs.map SettingsChange.sent).zip settings).map fun e =>
          ⟨e.1.1, .settings, .ofResult e.2⟩ := by
    rw [List.zip_map_left, List.map_map]
    rfl
  have hsettings := hitems p.settings
  rw [h.settings, ← hitems] at hsettings
  unfold SaveReport.ofResults
  rw [h.whitelists, h.invalid]
  exact congrArg _ (congrArg _ hsettings)

/-- A save sends and reports the same, whatever the order of the edited attributes. -/
theorem Form.Reordered.save_eq {m : Type → Type} [Monad m] [LawfulMonad m] {f f' : Form}
    (h : f.Reordered f') (b : Backend m) :
    Prod.fst <$> f.save b = Prod.fst <$> f'.save b := by
  have hsend (cs : List SettingsChange) : (cs.mapM fun c => b.updateDataModel c.model c.params) =
      (cs.map SettingsChange.sent).mapM fun e => b.updateDataModel e.1 e.2 := by
    rw [List.mapM_map]
    rfl
  have hreport (f : Form) (ws ss : List UpdateResult) :
      (f.settle ws ss).1 = SaveReport.ofResults f.plan ws ss := rfl
  unfold save
  simp only [map_bind, map_pure, hreport, hsend, h.plan.whitelists, h.plan.settings,
    h.plan.ofResults_eq]

theorem Form.Reordered.save_run_eq {σ : Type} {f f' : Form} (h : f.Reordered f')
    (b : Backend (StateM σ)) (s : σ) : ((f.save b).run s).1.1 = ((f'.save b).run s).1.1 ∧
      ((f.save b).run s).2 = ((f'.save b).run s).2 :=
  Prod.mk.inj (congrArg (·.run s) (h.save_eq b))

end AccelForm
