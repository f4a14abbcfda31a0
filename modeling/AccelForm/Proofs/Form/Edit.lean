import AccelForm.Proofs.Attribute.Change
import AccelForm.Proofs.Form.Operation
import AccelForm.Proofs.Form.Pairing
import Mathlib.Data.List.Forall2
/-
  Edits and where they can be

  An operation that is no save changes at most the first row of one name, or
  drops all edits (`forall₂_edit_perform` says what it does to each row). Data models
  may repeat a name, and then several rows have it; but a row is loaded
  without edits and only the first row of a name is ever edited. So in every
  reachable form a row behind another one of its name is unedited
  (`LaterUnedited`). The rows that have edits are then the first of their names
  (`EditsLead`), which is why a save can find the row of an update by name.
-/

namespace AccelForm

namespace Row

/-- What an operation other than a save can do to a row. -/
inductive Edit (features : Features) (r : Row) : Row → Prop where
  | keep : Edit features r r
  | whitelist (h : r.macroName.isSome = true) (display : String) :
      Edit features r { r with whitelist := Whitelist.tidy display }
  | setting {s : Setting} (h : features.allows s = true) (value : Json) :
      Edit features r { r with attributes := r.attributes.insert s.attributeName value }
  | tags (h : features.tagsWhitelist = true) (tags : String) :
      Edit features r { r with
        attributes := r.attributes.insert tagsAttribute (.string (Whitelist.tidy tags)) }
  | discard : Edit features r r.discard

/-- Nothing of the row differs from what was loaded or last saved. -/
def Unedited (r : Row) : Prop := r.whitelist = r.savedWhitelist ∧ r.attributes = r.baseline

theorem Unedited.isDirty_eq_false {r : Row} (h : r.Unedited) : r.isDirty = false := by
  simp [isDirty, whitelistChanged, settingsChanged, Bag.differs, h.1, h.2, Bag.same_refl]

theorem unedited_discard (r : Row) : r.discard.Unedited := ⟨rfl, rfl⟩

theorem isDirty_discard (r : Row) : r.discard.isDirty = false := r.unedited_discard.isDirty_eq_false

theorem unedited_of_mem_pair {macros : List Rest.SearchMacro} {models : List Rest.DataModel}
    {r : Row} (h : r ∈ pair macros models) : r.Unedited := by
  rcases mem_pair h with ⟨dm, rfl⟩ | ⟨m, dm, _, rfl⟩
  · exact ⟨rfl, rfl⟩
  · exact ⟨rfl, rfl⟩

end Row

namespace Form

variable {f : Form} {model : String} {rows : List Row}

/-! ## Changing the first row of a name -/

theorem mem_updateFirst {change : Row → Row} {r : Row} (h : r ∈ updateFirst model change rows) :
    r ∈ rows ∨ ∃ x ∈ rows, x.model = model ∧ r = change x := by
  induction rows with
  | nil => simp [updateFirst] at h
  | cons x rest ih =>
    unfold updateFirst at h
    split at h
    · next hx =>
      rcases List.mem_cons.1 h with rfl | h
      · exact .inr ⟨x, by simp, hx, rfl⟩
      · exact .inl (List.mem_cons_of_mem _ h)
    · rcases List.mem_cons.1 h with rfl | h
      · exact .inl (by simp)
      · rcases ih h with h | ⟨y, hy, hm, rfl⟩
        · exact .inl (List.mem_cons_of_mem _ h)
        · exact .inr ⟨y, List.mem_cons_of_mem _ hy, hm, rfl⟩

/-- Each row stays or is the first row of the name and changed. -/
theorem forall₂_updateFirst {R : Row → Row → Prop} {change : Row → Row} (hrefl : ∀ r, R r r)
    (hchange : ∀ r, rows.find? (·.model == model) = some r → R r (change r)) :
    List.Forall₂ R rows (updateFirst model change rows) := by
  induction rows with
  | nil => exact .nil
  | cons x rest ih =>
    unfold updateFirst
    split
    · next hx => exact .cons (hchange x (by simp [hx])) (List.forall₂_same.2 fun r _ => hrefl r)
    · next hx =>
      refine .cons (hrefl x) (ih fun r hr => hchange r ?_)
      rwa [List.find?_cons_of_neg (by simpa using hx)]

theorem updateFirst_eq_self {rows : List Row} {change : Row → Row}
    (h : ∀ r, rows.find? (·.model == model) = some r → change r = r) :
    updateFirst model change rows = rows := by
  have hrows : List.Forall₂ Eq rows (updateFirst model change rows) :=
    forall₂_updateFirst (fun _ => rfl) fun r hr => (h r hr).symm
  rw [List.forall₂_eq_eq_eq] at hrows
  exact hrows.symm

theorem update_update {change change' : Row → Row} (hmodel : ∀ r, (change r).model = r.model) :
    (f.update model change).update model change' = f.update model fun r => change' (change r) := by
  have hrows : updateFirst model change' (updateFirst model change f.rows) =
      updateFirst model (fun r => change' (change r)) f.rows := by
    induction f.rows with
    | nil => rfl
    | cons r rest ih =>
      by_cases hr : r.model = model
      · rw [updateFirst, if_pos hr, updateFirst, if_pos ((hmodel r).trans hr), updateFirst,
          if_pos hr]
      · rw [updateFirst, if_neg hr, updateFirst, if_neg hr, ih, updateFirst, if_neg hr]
  exact congrArg (fun rows => { f with rows }) hrows

theorem model_of_row? {r : Row} (h : f.row? model = some r) : r.model = model := by
  simpa using List.find?_some h

theorem row_eq_ok_iff {r : Row} : f.row model = .ok r ↔ f.row? model = some r := by
  unfold row
  split
  · next x hx => simp [hx]
  · next hx => simp [hx]

/-! ## What an edit does -/

theorem select_eq_ok {f' : Form} (h : f.select model = .ok f') :
    ∃ i, f.position? model = some i ∧ f' = { f with selected := some i } := by
  unfold select at h
  split at h
  · next i hi => exact ⟨i, hi, (Except.ok.inj h).symm⟩
  · cases h

theorem setWhitelist_eq_ok {display : String} {f' : Form}
    (h : f.setWhitelist model display = .ok f') :
    ∃ r, f.row? model = some r ∧ r.macroName.isSome = true ∧
      f' = f.update model fun r => { r with whitelist := Whitelist.tidy display } := by
  unfold setWhitelist at h
  cases hr : f.row model with
  | error e => rw [hr] at h; cases h
  | ok r =>
    rw [hr] at h
    change (if r.macroName.isNone then _ else _) = _ at h
    split at h
    · cases h
    · next hm => exact ⟨r, row_eq_ok_iff.1 hr, by simpa [Option.isSome_iff_ne_none] using hm,
        (Except.ok.inj h).symm⟩

theorem setSetting_eq_ok {s : Setting} {value : Json} {f' : Form}
    (h : f.setSetting model s value = .ok f') :
    f.features.allows s = true ∧ (f.row? model).isSome = true ∧ f' = f.update model fun r =>
      { r with attributes := r.attributes.insert s.attributeName value } := by
  unfold setSetting at h
  split at h
  · cases h
  · next hs =>
    cases hr : f.row model with
    | error e => rw [hr] at h; cases h
    | ok r =>
      rw [hr] at h
      exact ⟨by simpa using hs, by simp [row_eq_ok_iff.1 hr], (Except.ok.inj h).symm⟩

theorem setTags_eq_ok {tags : String} {f' : Form} (h : f.setTags model tags = .ok f') :
    f.features.tagsWhitelist = true ∧ (f.row? model).isSome = true ∧
      f' = f.update model fun r => { r with
        attributes := r.attributes.insert tagsAttribute (.string (Whitelist.tidy tags)) } := by
  unfold setTags at h
  split at h
  · cases h
  · next ht =>
    cases hr : f.row model with
    | error e => rw [hr] at h; cases h
    | ok r =>
      rw [hr] at h
      exact ⟨by simpa using ht, by simp [row_eq_ok_iff.1 hr], (Except.ok.inj h).symm⟩

/-- What an operation other than a save can make of the rows. -/
inductive EditRows (f : Form) (rows' : List Row) : Prop where
  | keep (h : rows' = f.rows)
  | first {model : String} {change : Row → Row} (h : rows' = updateFirst model change f.rows)
      (hmodel : ∀ r, (change r).model = r.model)
      (hedit : ∀ r, f.row? model = some r → Row.Edit f.features r (change r))
  | discard (h : rows' = f.rows.map Row.discard)

/-- A refused edit leaves the form as it is. -/
theorem getD_of_edit {P : Form → Prop} {result : Except FormError Form} (hf : P f)
    (h : ∀ f', result = .ok f' → P f') : P (result.toOption.getD f) := by
  cases result with
  | error e => exact hf
  | ok f' => exact h f' rfl

theorem editRows_perform (f : Form) {op : Operation} (h : ∀ replies, op ≠ .save replies) :
    EditRows f (f.perform op).rows := by
  cases op with
  | select model =>
    refine getD_of_edit (P := fun g => EditRows f g.rows) (.keep rfl) fun f' h => ?_
    obtain ⟨i, _, rfl⟩ := select_eq_ok h
    exact .keep rfl
  | setWhitelist model display =>
    refine getD_of_edit (P := fun g => EditRows f g.rows) (.keep rfl) fun f' h => ?_
    obtain ⟨r, hr, hm, rfl⟩ := setWhitelist_eq_ok h
    refine .first rfl (fun _ => rfl) fun x hx => ?_
    rw [hr, Option.some.injEq] at hx
    exact .whitelist (hx ▸ hm) display
  | setSetting model s value =>
    refine getD_of_edit (P := fun g => EditRows f g.rows) (.keep rfl) fun f' h => ?_
    obtain ⟨hs, _, rfl⟩ := setSetting_eq_ok h
    exact .first rfl (fun _ => rfl) fun _ _ => .setting hs value
  | setTags model tags =>
    refine getD_of_edit (P := fun g => EditRows f g.rows) (.keep rfl) fun f' h => ?_
    obtain ⟨ht, _, rfl⟩ := setTags_eq_ok h
    exact .first rfl (fun _ => rfl) fun _ _ => .tags ht tags
  | discard => exact .discard rfl
  | save replies => exact absurd rfl (h replies)

/-- An operation other than a save edits each row or leaves it. -/
theorem forall₂_edit_perform (f : Form) {op : Operation} (h : ∀ replies, op ≠ .save replies) :
    List.Forall₂ (Row.Edit f.features) f.rows (f.perform op).rows := by
  cases editRows_perform f h with
  | keep h => exact h ▸ List.forall₂_same.2 fun _ _ => .keep
  | first h _ hedit => exact h ▸ forall₂_updateFirst (fun _ => .keep) hedit
  | discard h =>
    rw [h, List.forall₂_map_right_iff]
    exact List.forall₂_same.2 fun _ _ => .discard

/-- Every row after such an operation comes from a row before it. -/
theorem exists_edit_of_mem_perform {op : Operation} (h : ∀ replies, op ≠ .save replies) {r' : Row}
    (hr' : r' ∈ (f.perform op).rows) : ∃ r ∈ f.rows, Row.Edit f.features r r' := by
  have hedit := forall₂_edit_perform f h
  generalize f.rows = rows, (f.perform op).rows = rows' at hedit hr'
  induction hedit with
  | nil => cases hr'
  | cons hxy _ ih =>
    rcases List.mem_cons.1 hr' with rfl | hr'
    · exact ⟨_, by simp, hxy⟩
    · obtain ⟨r, hr, hrr'⟩ := ih hr'
      exact ⟨r, List.mem_cons_of_mem _ hr, hrr'⟩

/-! ## Edits lead -/

/-- Only the first row of a name has edits. -/
def EditsLead (f : Form) : Prop :=
  f.rows.Pairwise fun a b => a.model = b.model → b.isDirty = false

/-- A row that has edits is the one that the form finds by its name. -/
theorem EditsLead.row?_eq_some {f : Form} (h : EditsLead f) {r : Row} (hr : r ∈ f.rows)
    (hd : r.isDirty = true) : f.row? r.model = some r := by
  unfold EditsLead at h
  unfold row?
  generalize f.rows = rows at h hr
  induction rows with
  | nil => cases hr
  | cons x rest ih =>
    rw [List.pairwise_cons] at h
    rcases List.mem_cons.1 hr with rfl | hr
    · simp
    · have hne : x.model ≠ r.model := fun heq => by
        rw [h.1 r hr heq] at hd
        cases hd
      rw [List.find?_cons_of_neg (by simpa using hne)]
      exact ih h.2 hr

theorem pairwise_updateFirst {P : Row → Prop} {change : Row → Row}
    (hmodel : ∀ r, (change r).model = r.model)
    (h : rows.Pairwise fun a b => a.model = b.model → P b) :
    (updateFirst model change rows).Pairwise fun a b => a.model = b.model → P b := by
  induction rows with
  | nil => exact .nil
  | cons x rest ih =>
    rw [List.pairwise_cons] at h
    unfold updateFirst
    split
    · exact List.pairwise_cons.2 ⟨fun b hb hxb => h.1 b hb ((hmodel x).symm.trans hxb), h.2⟩
    · next hx =>
      refine List.pairwise_cons.2 ⟨fun b hb hxb => ?_, ih h.2⟩
      -- the changed row has another name than the rows before it
      rcases mem_updateFirst hb with hb | ⟨y, _, hy, rfl⟩
      · exact h.1 b hb hxb
      · exact absurd (hxb.trans ((hmodel y).trans hy)) hx

/-- A row behind another one of its name is unedited. -/
def LaterUnedited (f : Form) : Prop :=
  f.rows.Pairwise fun a b => a.model = b.model → b.Unedited

theorem LaterUnedited.editsLead (h : LaterUnedited f) : EditsLead f :=
  List.Pairwise.imp (fun hab heq => (hab heq).isDirty_eq_false) h

theorem laterUnedited_of_forall (h : ∀ r ∈ f.rows, r.Unedited) : LaterUnedited f :=
  List.pairwise_of_forall_mem_list fun _ _ b hb _ => h b hb

theorem laterUnedited_of_loaded (h : Loaded f) : LaterUnedited f := by
  obtain ⟨version, displayLimit, assets, rfl⟩ := loaded_iff.1 h
  exact laterUnedited_of_forall fun r hr => Row.unedited_of_mem_pair hr

theorem LaterUnedited.perform (h : LaterUnedited f) {op : Operation}
    (hop : ∀ replies, op ≠ .save replies) : LaterUnedited (f.perform op) := by
  cases editRows_perform f hop with
  | keep hrows =>
    unfold LaterUnedited
    rwa [hrows]
  | first hrows hmodel _ =>
    unfold LaterUnedited
    rw [hrows]
    exact pairwise_updateFirst hmodel h
  | discard hrows =>
    refine laterUnedited_of_forall fun r hr => ?_
    rw [hrows] at hr
    obtain ⟨x, _, rfl⟩ := List.mem_map.1 hr
    exact x.unedited_discard

end Form

end AccelForm
