import AccelForm.Proofs.Form.Answer
/-
  Saves row by row

  The form settles a save by folding over the updates that succeeded, looking
  for the row of each by the name of its data model. Where edits lead, every
  update was made from the first row of its name, so the folds reach the rows
  that the updates came from and no others: a save settles every row by its own
  replies alone (`settle_rows`). Settling leaves rows without edits as they are,
  so in every reachable form later rows of a name are unedited and edits lead
  (`Reachable.laterUnedited`, `Reachable.editsLead`). What a save does is from
  here on a statement about one row and its replies.
-/

namespace AccelForm

namespace Form

/-! ## Folding changes by name -/

section Folding
variable {σ α : Type} (target : σ → Row) (pick : σ → Option α) (name : α → String)
  (act : α → Row → Row)

/-- Changes of other names pass a row. -/
theorem foldl_updateFirst_cons {x : Row} {rows : List Row} {cs : List α}
    (h : ∀ c ∈ cs, name c ≠ x.model) :
    cs.foldl (fun rows c => updateFirst (name c) (act c) rows) (x :: rows) =
      x :: cs.foldl (fun rows c => updateFirst (name c) (act c) rows) rows := by
  induction cs generalizing rows with
  | nil => rfl
  | cons c cs ih =>
    rw [List.foldl_cons, List.foldl_cons, updateFirst, if_neg (Ne.symm (h c (by simp)))]
    exact ih fun d hd => h d (List.mem_cons_of_mem _ hd)

/-- Changes that come from the first rows of their names, in order, reach the rows that they come
from. -/
theorem foldl_updateFirst {src : List σ}
    (hname : ∀ s c, pick s = some c → name c = (target s).model)
    (hact : ∀ c r, (act c r).model = r.model)
    (h : src.Pairwise fun a b => (target a).model = (target b).model → pick b = none) :
    (src.filterMap pick).foldl (fun rows c => updateFirst (name c) (act c) rows) (src.map target) =
      src.map fun s => (pick s).elim (target s) fun c => act c (target s) := by
  induction src with
  | nil => rfl
  | cons s rest ih =>
    rw [List.pairwise_cons] at h
    -- the changes of the rest pass this row, as none of them has its name
    have hne : ∀ c ∈ rest.filterMap pick, name c ≠ (target s).model := by
      intro c hc heq
      obtain ⟨t, ht, hpick⟩ := List.mem_filterMap.1 hc
      rw [h.1 t ht (heq.symm.trans (hname t c hpick))] at hpick
      cases hpick
    rw [List.map_cons, List.map_cons, ← ih h.2]
    cases hp : pick s with
    | none =>
      rw [List.filterMap_cons_none hp]
      exact foldl_updateFirst_cons name act hne
    | some c =>
      rw [List.filterMap_cons_some hp, List.foldl_cons, updateFirst, if_pos (hname s c hp).symm]
      exact foldl_updateFirst_cons name act fun d hd => by rw [hact]; exact hne d hd

end Folding

/-! ## Settling -/

theorem rows_revertInvalid (f : Form) (cs : List InvalidChange) :
    (f.revertInvalid cs).rows =
      cs.foldl (fun rows c => updateFirst c.model (·.revert c.problems) rows) f.rows :=
  (List.foldl_hom Form.rows fun _ _ => rfl).symm

/-- Keeping what was saved, by the name of each update that succeeded. -/
theorem rows_foldl_update {α : Type} (name : α → String) (keep : Row → Row) (f : Form)
    (rs : List (α × UpdateResult)) :
    (rs.foldl (fun f p => if p.2.isOk then f.update (name p.1) keep else f) f).rows =
      (rs.filterMap fun p => if p.2.isOk then some p.1 else none).foldl
        (fun rows c => updateFirst (name c) keep rows) f.rows := by
  induction rs generalizing f with
  | nil => rfl
  | cons p rs ih =>
    rw [List.foldl_cons, ih]
    cases hr : p.2.isOk <;> simp [hr, update]

/-- Edits lead among the answers, whatever is done to the rows. -/
theorem EditsLead.pairwise_answers {f : Form} (h : EditsLead f) (ws ss : List UpdateResult)
    (target : Answer → Row) (htarget : ∀ a, (target a).model = a.row.model) {α : Type}
    (pick : Answer → Option α) (hpick : ∀ a, a.row.isDirty = false → pick a = none) :
    (answers f.features f.rows ws ss).Pairwise
      fun a b => (target a).model = (target b).model → pick b = none := by
  refine List.Pairwise.imp ?_ (pairwise_row_answers h)
  intro a b hab heq
  exact hpick b (hab ((htarget a).symm.trans (heq.trans (htarget b))))

section Settling
variable {f : Form} (h : EditsLead f) (ws ss : List UpdateResult)

include h

/-- The settings that have problems are put back. -/
theorem rows_reverted : (f.revertInvalid f.plan.invalid).rows =
    (answers f.features f.rows ws ss).map fun a => a.row.reverted := by
  have hfold := foldl_updateFirst Answer.row (fun a => a.row.invalidChange?) InvalidChange.model
    (fun c r => r.revert c.problems)
    (fun a c hc => by rw [(Row.invalidChange?_eq_some hc).2.2]) (fun _ _ => rfl)
    (h.pairwise_answers ws ss _ (fun _ => rfl) _
      fun a ha => (Row.no_change_of_clean ha f.features).2.2)
  have hplan : f.plan.invalid =
      (answers f.features f.rows ws ss).filterMap fun a => a.row.invalidChange? :=
    (filterMap_row_answers Row.invalidChange?).symm
  rw [map_row_answers, ← hplan, ← rows_revertInvalid] at hfold
  refine hfold.trans (List.map_congr_left fun a _ => ?_)
  unfold Row.reverted
  cases a.row.invalidChange? <;> rfl

/-- The whitelists that the server has taken over become the baseline. -/
theorem rows_whitelistSettled :
    ((f.revertInvalid f.plan.invalid).keepWhitelists (f.plan.whitelists.zip ws)).rows =
      (answers f.features f.rows ws ss).map (·.whitelistSettled) := by
  have hmodel : ∀ a : Answer, a.row.reverted.model = a.row.model := fun a => a.row.reverted_model
  have hfold := foldl_updateFirst (fun a : Answer => a.row.reverted) Answer.acceptedWhitelist?
    WhitelistChange.model (fun _ => Row.keepWhitelist)
    (fun a c hc => by
      rw [hmodel, (Row.whitelistChange?_eq_some (Answer.whitelistIf_eq_some hc)).2.1])
    (fun _ _ => rfl)
    (h.pairwise_answers ws ss _ hmodel _ fun a ha => (Answer.none_of_clean ha f.features _).1)
  have hplan : (f.plan.whitelists.zip ws).filterMap
      (fun p => if p.2.isOk then some p.1 else none) =
        (answers f.features f.rows ws ss).filterMap Answer.acceptedWhitelist? :=
    filterMap_whitelistIf (·.isOk)
  rw [← hplan, ← rows_reverted h, ← rows_foldl_update] at hfold
  refine Eq.trans hfold (List.map_congr_left fun a _ => ?_)
  unfold Answer.whitelistSettled
  cases a.acceptedWhitelist? <;> rfl

/-- The settings that the server has taken over become the baseline. -/
theorem rows_settled :
    (((f.revertInvalid f.plan.invalid).keepWhitelists (f.plan.whitelists.zip ws)).keepSettings
        (f.plan.settings.zip ss)).rows =
      (answers f.features f.rows ws ss).map (·.settled f.features) := by
  have hmodel := Answer.whitelistSettled_model
  have hfold := foldl_updateFirst Answer.whitelistSettled (Answer.acceptedSettings? f.features)
    SettingsChange.model (fun _ => Row.keepSettings)
    (fun a c hc => by
      rw [hmodel, (Row.settingsChange?_eq_some (Answer.settingsIf_eq_some hc)).2.2])
    (fun _ _ => rfl)
    (h.pairwise_answers ws ss _ hmodel _ fun a ha => (Answer.none_of_clean ha f.features _).2)
  have hplan : (f.plan.settings.zip ss).filterMap
      (fun p => if p.2.isOk then some p.1 else none) =
        (answers f.features f.rows ws ss).filterMap (Answer.acceptedSettings? f.features) :=
    filterMap_settingsIf (·.isOk)
  rw [← hplan, ← rows_whitelistSettled h, ← rows_foldl_update] at hfold
  refine Eq.trans hfold (List.map_congr_left fun a _ => ?_)
  unfold Answer.settled
  cases a.acceptedSettings? f.features <;> rfl

/-- A save settles every row by the replies to its own updates. -/
theorem settle_rows : (f.settle ws ss).2.rows = (answers f.features f.rows ws ss).map fun a =>
    { a.settled f.features with status := (f.settle ws ss).1.status? a.row.model } := by
  show (((f.revertInvalid f.plan.invalid).keepWhitelists (f.plan.whitelists.zip ws)).keepSettings
    (f.plan.settings.zip ss)).rows.map _ = _
  rw [rows_settled h, List.map_map]
  refine List.map_congr_left fun a _ => ?_
  simp only [Function.comp_apply, Answer.settled_model]
  rfl

end Settling

/-! ## What a save leaves alone -/

/-- Steps that change nothing but the rows. -/
theorem foldl_eq_with_rows {α : Type} {step : Form → α → Form}
    (hstep : ∀ f x, step f x = { f with rows := (step f x).rows }) (f : Form) (l : List α) :
    l.foldl step f = { f with rows := (l.foldl step f).rows } := by
  induction l generalizing f with
  | nil => rfl
  | cons x l ih => rw [List.foldl_cons, ih, hstep f x]

theorem revertInvalid_eq_with_rows (f : Form) (cs : List InvalidChange) :
    f.revertInvalid cs = { f with rows := (f.revertInvalid cs).rows } :=
  foldl_eq_with_rows (fun _ _ => rfl) f cs

theorem keepWhitelists_eq_with_rows (f : Form) (rs : List (WhitelistChange × UpdateResult)) :
    f.keepWhitelists rs = { f with rows := (f.keepWhitelists rs).rows } := by
  refine foldl_eq_with_rows (fun f p => ?_) f rs
  cases hr : p.2.isOk <;> simp [hr, update]

theorem keepSettings_eq_with_rows (f : Form) (rs : List (SettingsChange × UpdateResult)) :
    f.keepSettings rs = { f with rows := (f.keepSettings rs).rows } := by
  refine foldl_eq_with_rows (fun f p => ?_) f rs
  cases hr : p.2.isOk <;> simp [hr, update]

/-- A save changes nothing but the rows. -/
theorem settle_eq_with_rows (f : Form) (ws ss : List UpdateResult) :
    (f.settle ws ss).2 = { f with rows := (f.settle ws ss).2.rows } := by
  unfold settle
  dsimp only [showStatuses]
  rw [keepSettings_eq_with_rows, keepWhitelists_eq_with_rows, revertInvalid_eq_with_rows]

/-- An operation changes nothing but the rows and which one is selected. -/
theorem perform_eq_with_rows (f : Form) (op : Operation) : f.perform op =
    { f with rows := (f.perform op).rows, selected := (f.perform op).selected } := by
  cases op with
  | select model =>
    refine getD_of_edit (P := fun g => g = { f with rows := g.rows, selected := g.selected }) rfl
      fun f' h => ?_
    obtain ⟨_, _, rfl⟩ := select_eq_ok h
    rfl
  | setWhitelist model display =>
    refine getD_of_edit (P := fun g => g = { f with rows := g.rows, selected := g.selected }) rfl
      fun f' h => ?_
    obtain ⟨_, _, _, rfl⟩ := setWhitelist_eq_ok h
    rfl
  | setSetting model s value =>
    refine getD_of_edit (P := fun g => g = { f with rows := g.rows, selected := g.selected }) rfl
      fun f' h => ?_
    obtain ⟨_, _, rfl⟩ := setSetting_eq_ok h
    rfl
  | setTags model tags =>
    refine getD_of_edit (P := fun g => g = { f with rows := g.rows, selected := g.selected }) rfl
      fun f' h => ?_
    obtain ⟨_, _, rfl⟩ := setTags_eq_ok h
    rfl
  | discard => rfl
  | save replies =>
    show (f.settle _ _).2 = { f with
      rows := (f.settle _ _).2.rows, selected := (f.settle _ _).2.selected }
    rw [settle_eq_with_rows]

theorem features_perform (f : Form) (op : Operation) : (f.perform op).features = f.features := by
  rw [perform_eq_with_rows]

theorem features_run (f : Form) (ops : List Operation) : (f.run ops).features = f.features := by
  induction ops generalizing f with
  | nil => rfl
  | cons op ops ih => exact (ih (f.perform op)).trans (features_perform f op)

/-! ## Later rows of a name are unedited in every reachable form -/

theorem LaterUnedited.settle {f : Form} (h : LaterUnedited f) (ws ss : List UpdateResult) :
    LaterUnedited (f.settle ws ss).2 := by
  unfold LaterUnedited
  rw [settle_rows h.editsLead, List.pairwise_map]
  refine (pairwise_row_answers h).imp fun {a b} hab heq => ?_
  simp only [Answer.settled_model] at heq
  -- a row without edits is settled by leaving it as it is, its status apart
  have hb := hab heq
  have hsettled := Answer.settled_of_clean hb.isDirty_eq_false f.features
  unfold Row.Unedited at hb ⊢
  rwa [hsettled]

/-- The rows at a save with the replies to their updates. -/
def answersTo (f : Form) (replies : Replies) : List Answer :=
  answers f.features f.rows (replies.toWhitelists f.plan) (replies.toSettings f.plan)

theorem map_row_answersTo (f : Form) (replies : Replies) :
    (f.answersTo replies).map Answer.row = f.rows := map_row_answers

theorem Reachable.laterUnedited {f : Form} (h : Reachable f) : LaterUnedited f := by
  induction h with
  | load hf => exact laterUnedited_of_loaded hf
  | @perform f _ op ih =>
    cases op with
    | save replies => exact ih.settle _ _
    | _ => exact ih.perform (by rintro replies ⟨⟩)

theorem Reachable.editsLead {f : Form} (h : Reachable f) : EditsLead f := h.laterUnedited.editsLead

/-- What holds of loaded rows, and edits and saves preserve, holds of all rows of a reachable
form. -/
theorem Reachable.forall_rows {P : Features → Row → Prop}
    (hload : ∀ {features macros models r}, r ∈ Row.pair macros models → P features r)
    (hedit : ∀ {features r r'}, Row.Edit features r r' → P features r → P features r')
    (hsettle : ∀ {features} {a : Answer} (status : Option Status), P features a.row →
      P features { a.settled features with status })
    {f : Form} (h : Reachable f) : ∀ r ∈ f.rows, P f.features r := by
  induction h with
  | load hf =>
    obtain ⟨version, displayLimit, assets, rfl⟩ := loaded_iff.1 hf
    intro r hr
    exact hload hr
  | @perform f hf op ih =>
    rw [features_perform]
    intro r' hr'
    by_cases hop : ∃ replies, op = .save replies
    · obtain ⟨replies, rfl⟩ := hop
      change r' ∈ (f.settle _ _).2.rows at hr'
      rw [settle_rows hf.editsLead] at hr'
      obtain ⟨a, ha, rfl⟩ := List.mem_map.1 hr'
      exact hsettle _ (ih a.row (mem_of_mem_answers ha))
    · obtain ⟨r, hr, hrr'⟩ := exists_edit_of_mem_perform (fun replies h => hop ⟨replies, h⟩) hr'
      exact hedit hrr' (ih r hr)

/-- What edits and saves leave as it is in a row, an operation leaves as it is in all rows. -/
theorem map_rows_perform {α : Type} {p : Row → α}
    (hedit : ∀ {features r r'}, Row.Edit features r r' → p r' = p r)
    (hsettle : ∀ {features} {a : Answer} (status : Option Status),
      p { a.settled features with status } = p a.row)
    {f : Form} (h : EditsLead f) (op : Operation) : (f.perform op).rows.map p = f.rows.map p := by
  by_cases hop : ∃ replies, op = .save replies
  · obtain ⟨replies, rfl⟩ := hop
    show (f.settle _ _).2.rows.map p = f.rows.map p
    have hrows := congrArg (List.map p) (map_row_answersTo f replies)
    rw [settle_rows h, List.map_map, ← hrows, List.map_map]
    exact List.map_congr_left fun a _ => hsettle _
  · have hrows := forall₂_edit_perform f fun replies h => hop ⟨replies, h⟩
    rw [eq_comm, ← List.forall₂_eq_eq_eq, List.forall₂_map_left_iff, List.forall₂_map_right_iff]
    exact hrows.imp fun r r' hr => (hedit hr).symm

/-! ## Rows by name -/

section ByName
variable {f : Form} (h : EditsLead f)

include h

/-- What the plan makes from rows that have edits comes from the rows that the form finds by
name. -/
theorem EditsLead.mem_filterMap_rows {α : Type} {pick : Row → Option α} {name : α → String}
    (hpick : ∀ r c, pick r = some c → name c = r.model ∧ r.isDirty = true) {c : α} :
    c ∈ f.rows.filterMap pick ↔ ∃ r, f.row? (name c) = some r ∧ pick r = some c := by
  constructor
  · intro hc
    obtain ⟨r, hr, hrc⟩ := List.mem_filterMap.1 hc
    obtain ⟨hname, hd⟩ := hpick r c hrc
    exact ⟨r, hname ▸ h.row?_eq_some hr hd, hrc⟩
  · rintro ⟨r, hr, hrc⟩
    exact List.mem_filterMap.2 ⟨r, List.mem_of_find?_eq_some hr, hrc⟩

theorem EditsLead.mem_plan_whitelists {c : WhitelistChange} :
    c ∈ f.plan.whitelists ↔ ∃ r, f.row? c.model = some r ∧ r.whitelistChange? = some c := by
  refine h.mem_filterMap_rows fun r c hrc => ?_
  obtain ⟨hchanged, hmodel, _⟩ := Row.whitelistChange?_eq_some hrc
  exact ⟨hmodel, by simp [Row.isDirty, hchanged]⟩

theorem EditsLead.mem_plan_settings {c : SettingsChange} :
    c ∈ f.plan.settings ↔ ∃ r, f.row? c.model = some r ∧ r.settingsChange? f.features = some c := by
  refine h.mem_filterMap_rows fun r c hrc => ?_
  obtain ⟨hchanged, _, rfl⟩ := Row.settingsChange?_eq_some hrc
  exact ⟨rfl, by simp [Row.isDirty, hchanged]⟩

theorem EditsLead.mem_plan_invalid {c : InvalidChange} :
    c ∈ f.plan.invalid ↔ ∃ r, f.row? c.model = some r ∧ r.invalidChange? = some c := by
  refine h.mem_filterMap_rows fun r c hrc => ?_
  obtain ⟨hchanged, _, rfl⟩ := Row.invalidChange?_eq_some hrc
  exact ⟨rfl, by simp [Row.isDirty, hchanged]⟩

/-- The row of a name after a save is the row of that name settled. -/
theorem EditsLead.row?_settle {model : String} {r : Row} (hr : f.row? model = some r)
    (ws ss : List UpdateResult) : ∃ (a : Answer) (status : Option Status), a.row = r ∧
      (f.settle ws ss).2.row? model = some { a.settled f.features with status } := by
  have hfind : ((answers f.features f.rows ws ss).map Answer.row).find? (·.model == model) =
      some r := by
    rw [map_row_answers]
    exact hr
  rw [List.find?_map, Option.map_eq_some_iff] at hfind
  obtain ⟨a, ha, rfl⟩ := hfind
  refine ⟨a, (f.settle ws ss).1.status? a.row.model, rfl, ?_⟩
  show (f.settle ws ss).2.rows.find? (·.model == model) = _
  rw [settle_rows h, List.find?_map]
  have hname : ((fun r : Row => r.model == model) ∘ fun a : Answer =>
      ({ a.settled f.features with status := (f.settle ws ss).1.status? a.row.model } : Row)) =
        (fun r => r.model == model) ∘ Answer.row := by
    funext b
    simp
  rw [hname, ha]
  rfl

end ByName

end Form

end AccelForm
