import AccelForm.Form.View
import AccelForm.Proofs.Form.Naming
/-
  What stays as it was opened, and which row is selected

  The selected row is stored by its place, and the place is used much later, so
  it must still be there. What keeps it there is that no operation adds,
  removes, renames or moves a row (`Retains.perform`): whatever the edits and
  the replies to the saves are, the form offers and shows the same things under
  the same names in the same order. A place that is stored is that of a row at
  this moment (`lt_of_position?`), so it stays the place of a row
  (`Focused.perform`). Hence nothing is selected only where there is nothing to
  select, and of the rows that the form shows exactly one is marked.
-/

namespace AccelForm

/-- Of items that are marked by their place, the one at that place is the only one. -/
theorem filter_mapIdx_eq_singleton {α β : Type} {f : Nat → α → β} {marked : β → Bool}
    {place : Nat} {xs : List α} {x : α} (hmarked : ∀ i y, marked (f i y) = (place == i))
    (h : xs[place]? = some x) : (xs.mapIdx f).filter marked = [f place x] := by
  induction xs generalizing f place with
  | nil => simp at h
  | cons y xs ih =>
    rw [List.mapIdx_cons]
    cases place with
    | zero =>
      have hfirst : marked (f 0 y) = true := hmarked 0 y
      have hrest : (xs.mapIdx fun i => f (i + 1)).filter marked = [] := by
        rw [List.filter_eq_nil_iff]
        intro b hb
        obtain ⟨i, hi, rfl⟩ := List.mem_mapIdx.1 hb
        rw [hmarked]
        simp
      have hx : y = x := by simpa using h
      rw [List.filter_cons_of_pos hfirst, hrest, hx]
    | succ place =>
      have hfirst : ¬ marked (f 0 y) = true := by
        rw [hmarked]
        simp
      rw [List.filter_cons_of_neg hfirst]
      exact ih (f := fun i => f (i + 1)) (fun i z => by rw [hmarked]; simp) (by simpa using h)

namespace Form

/-- One form has the rows of another under the same names, with the same macros and in the same
order, and offers and shows the same things. -/
structure Retains (f g : Form) : Prop where
  rows : g.rows.map (fun r => (r.model, r.macroName)) = f.rows.map fun r => (r.model, r.macroName)
  indexNames : g.indexNames = f.indexNames
  tagNames : g.tagNames = f.tagNames
  features : g.features = f.features
  release : g.release = f.release
  displayLimit : g.displayLimit = f.displayLimit

/-- The selected place is that of a row; nothing is selected only where there is no row. -/
def Focused (f : Form) : Prop :=
  match f.selected with
  | some place => place < f.rows.length
  | none => f.rows = []

variable {f g : Form}

/-! ## What stays -/

namespace Retains

theorem refl (f : Form) : f.Retains f := ⟨rfl, rfl, rfl, rfl, rfl, rfl⟩

theorem trans {h : Form} (hg : f.Retains g) (hh : g.Retains h) : f.Retains h where
  rows := hh.rows.trans hg.rows
  indexNames := hh.indexNames.trans hg.indexNames
  tagNames := hh.tagNames.trans hg.tagNames
  features := hh.features.trans hg.features
  release := hh.release.trans hg.release
  displayLimit := hh.displayLimit.trans hg.displayLimit

theorem length_eq (h : f.Retains g) : g.rows.length = f.rows.length := by
  have hlength := congrArg List.length h.rows
  rwa [List.length_map, List.length_map] at hlength

theorem perform (h : f.Reachable) (op : Operation) : f.Retains (f.perform op) := by
  have hrows : (f.perform op).rows.map (fun r => (r.model, r.macroName)) =
      f.rows.map fun r => (r.model, r.macroName) := by
    refine map_rows_perform (fun hedit => ?_) (fun {features a} _ => ?_) h.editsLead op
    · rw [hedit.model_eq, hedit.macroName_eq]
    · rw [Answer.settled_model, Answer.settled_macroName]
  exact { rows := hrows
          indexNames := by rw [perform_eq_with_rows]
          tagNames := by rw [perform_eq_with_rows]
          features := by rw [perform_eq_with_rows]
          release := by rw [perform_eq_with_rows]
          displayLimit := by rw [perform_eq_with_rows] }

theorem run (h : f.Reachable) (ops : List Operation) : f.Retains (f.run ops) := by
  induction ops generalizing f with
  | nil => exact refl f
  | cons op ops ih => exact (perform h op).trans (ih (h.perform op))

end Retains

/-! ## Which row is selected -/

theorem lt_of_position? {model : String} {place : Nat} (h : f.position? model = some place) :
    place < f.rows.length := by
  obtain ⟨hplace, _⟩ := List.findIdx?_eq_some_iff_getElem.1 h
  exact hplace

/-- An operation leaves the selection alone or selects a row. -/
theorem selected_perform (f : Form) (op : Operation) : (f.perform op).selected = f.selected ∨
    ∃ place, (f.perform op).selected = some place ∧ place < f.rows.length := by
  cases op with
  | select model =>
    refine getD_of_edit (P := fun g => g.selected = f.selected ∨
      ∃ place, g.selected = some place ∧ place < f.rows.length) (.inl rfl) fun f' h => ?_
    obtain ⟨place, hplace, rfl⟩ := select_eq_ok h
    exact .inr ⟨place, rfl, lt_of_position? hplace⟩
  | setWhitelist model display =>
    refine .inl (getD_of_edit (P := fun g => g.selected = f.selected) rfl fun f' h => ?_)
    obtain ⟨_, _, _, rfl⟩ := setWhitelist_eq_ok h
    rfl
  | setSetting model s value =>
    refine .inl (getD_of_edit (P := fun g => g.selected = f.selected) rfl fun f' h => ?_)
    obtain ⟨_, _, rfl⟩ := setSetting_eq_ok h
    rfl
  | setTags model tags =>
    refine .inl (getD_of_edit (P := fun g => g.selected = f.selected) rfl fun f' h => ?_)
    obtain ⟨_, _, rfl⟩ := setTags_eq_ok h
    rfl
  | discard => exact .inl rfl
  | save replies =>
    left
    show (f.settle _ _).2.selected = f.selected
    rw [settle_eq_with_rows]

namespace Focused

theorem ofAssets (release : Option Release) (displayLimit : Nat) (assets : Assets) :
    (ofAssets release displayLimit assets).Focused := by
  unfold Focused Form.ofAssets
  cases Row.pair assets.macros assets.models with
  | nil => rfl
  | cons r rest => exact Nat.zero_lt_succ rest.length

theorem perform (h : f.Focused) (hf : f.Reachable) (op : Operation) : (f.perform op).Focused := by
  have hlength := (Retains.perform hf op).length_eq
  unfold Focused at h ⊢
  rcases selected_perform f op with hkept | ⟨place, hplace, hlt⟩
  · rw [hkept]
    split
    · next place hplace =>
      rw [hplace] at h
      exact hlength ▸ h
    · next hnone =>
      rw [hnone] at h
      exact List.eq_nil_of_length_eq_zero (by rw [hlength, h]; rfl)
  · rw [hplace]
    exact hlength ▸ hlt

theorem run (h : f.Focused) (hf : f.Reachable) (ops : List Operation) : (f.run ops).Focused := by
  induction ops generalizing f with
  | nil => exact h
  | cons op ops ih => exact ih (h.perform hf op) (hf.perform op)

/-- A place that is selected is that of a row, whose name is then the selected one. -/
theorem exists_row (h : f.Focused) {place : Nat} (hplace : f.selected = some place) :
    ∃ r, f.rows[place]? = some r ∧ f.selectedModel? = some r.model := by
  unfold Focused at h
  rw [hplace] at h
  have hrow : f.rows[place]? = some f.rows[place] := List.getElem?_eq_getElem h
  refine ⟨f.rows[place], hrow, ?_⟩
  rw [selectedModel?, hplace, Option.bind_some, hrow]
  rfl

theorem selected_eq_none_iff (h : f.Focused) : f.selected = none ↔ f.rows = [] := by
  unfold Focused at h
  constructor
  · intro hnone
    rw [hnone] at h
    exact h
  · intro hrows
    cases hselected : f.selected with
    | none => rfl
    | some place =>
      rw [hselected, hrows] at h
      exact absurd h (Nat.not_lt_zero place)

/-- Where there are rows, the form marks the selected one and no other. -/
theorem filter_views (h : f.Focused) (hrows : f.rows ≠ []) :
    ∃ v, f.views.filter (·.isSelected) = [v] ∧ f.selectedModel? = some v.model := by
  obtain ⟨place, hplace⟩ := Option.ne_none_iff_exists'.1 (mt h.selected_eq_none_iff.1 hrows)
  obtain ⟨r, hr, hmodel⟩ := h.exists_row hplace
  refine ⟨f.viewAt place r, filter_mapIdx_eq_singleton (fun i r => ?_) hr, hmodel⟩
  show (f.selected == some i) = (place == i)
  rw [hplace]
  rfl

end Focused

/-- Through every run the rows keep their names, their macros and their order, and what the form
offers and shows stays as it was opened. A row is selected exactly if there is one, the selected
place is always that of a row, and of the rows shown exactly the selected one is marked. -/
theorem run_retains (hf : f.Loaded) (ops : List Operation) :
    f.Retains (f.run ops) ∧
    ((f.run ops).selected = none ↔ (f.run ops).rows = []) ∧
    (∀ place, (f.run ops).selected = some place → ∃ r,
      (f.run ops).rows[place]? = some r ∧ (f.run ops).selectedModel? = some r.model) ∧
    ((f.run ops).rows ≠ [] → ∃ v, (f.run ops).views.filter (·.isSelected) = [v] ∧
      (f.run ops).selectedModel? = some v.model) := by
  obtain ⟨version, displayLimit, assets, hassets⟩ := loaded_iff.1 hf
  have hreach : f.Reachable := .load hf
  have hfirst : f.Focused := hassets ▸ Focused.ofAssets _ displayLimit assets
  have hfocused : (f.run ops).Focused := hfirst.run hreach ops
  exact ⟨.run hreach ops, hfocused.selected_eq_none_iff, fun _ => hfocused.exists_row,
    hfocused.filter_views⟩

/-- A form with three rows, of which two share a name, and with a tag listed twice. -/
def trio : Form :=
  ofAssets (releaseOf (.ok "9.1")) 70
    { twinAssets with
      models := twinAssets.models ++ [⟨"Email", .ofList [("acceleration", .string "1")]⟩]
      tags := [⟨"web"⟩, ⟨"web"⟩] }

/-- The last row is selected and one that is not there is not; an edit without a whitelist to go to
is refused, and a save fails in part. -/
def trioOperations : List Operation :=
  [.select "Email", .select "Nothing", .setWhitelist "Email" "mail", .setWhitelist "Web" "main",
    .setSetting "Web" .maxTime (.string "x"), .save onlyWhitelists, .discard]

theorem trio_run_retains :
    trio.Loaded ∧ trio.Retains (trio.run trioOperations) ∧
    trio.selectedModel? = some "Web" ∧
    (trio.run trioOperations).selectedModel? = some "Email" ∧
    ∃ v, (trio.run trioOperations).views.filter (·.isSelected) = [v] ∧
      (trio.run trioOperations).selectedModel? = some v.model := by
  have hf : trio.Loaded := loaded_ofAssets _ _ _
  obtain ⟨hretains, _, _, hmarked⟩ := run_retains hf trioOperations
  exact ⟨hf, hretains, by decide +kernel, by decide +kernel, hmarked (by decide +kernel)⟩

end Form

end AccelForm
