import AccelForm.Form.Editing
import AccelForm.Proofs.Form.Operation
import AccelForm.Proofs.Form.Resubmit
/-
  Edits in place

  A step that edits the form in place could leave it half edited when it is
  refused, and could touch more than it is meant to. None does: whatever a
  step checks, it checks before it changes anything, and the one row that it
  puts back is the first of its name (`edits_in_place`). What a step leaves,
  refused or not, is what the operation of its name makes of the form.
-/

namespace AccelForm

namespace Form

def withRow (f : Form) (place : Nat) (r : Row) : Form := { f with rows := f.rows.set place r }

/-- The row at a place is the first one of a data model. -/
structure IsFirst (f : Form) (model : String) (place : Nat) (r : Row) : Prop where
  here : f.rows[place]? = some r
  named : r.model = model
  first : ∀ earlier x, earlier < place → f.rows[earlier]? = some x → x.model ≠ model

/-- One form is another with one attribute set in the first row of a data model. -/
def SetsAttribute (f : Form) (model key : String) (value : Json) (g : Form) : Prop :=
  ∃ place r b, f.IsFirst model place r ∧ g = f.withRow place { r with attributes := b } ∧
    ∀ k, b.get? k = if k = key then some value else r.attributes.get? k

/-- Why an attribute of a data model cannot be set: the server does not offer it, or there is no
such data model. -/
def WithholdsAttribute (f : Form) (offered : Bool) (refusal : FormError) (model : String)
    (e : FormError) : Prop :=
  (offered = false ∧ e = refusal) ∨
    (offered = true ∧ model ∉ f.models ∧ e = .unknownModel model)

variable {f : Form} {model : String} {place : Nat} {r : Row}

/-! ## The first row of a data model -/

namespace IsFirst

theorem position?_eq (h : f.IsFirst model place r) : f.position? model = some place := by
  obtain ⟨hlt, hr⟩ := List.getElem?_eq_some_iff.1 h.here
  refine List.findIdx?_eq_some_iff_getElem.2 ⟨hlt, by simp [hr, h.named], fun earlier he => ?_⟩
  have hx := h.first earlier _ he (List.getElem?_eq_getElem (he.trans hlt))
  simpa using hx

theorem row?_eq (h : f.IsFirst model place r) : f.row? model = some r := by
  obtain ⟨hlt, hr⟩ := List.getElem?_eq_some_iff.1 h.here
  refine List.find?_eq_some_iff_getElem.2 ⟨by simp [h.named], place, hlt, hr, fun earlier he => ?_⟩
  have hx := h.first earlier _ he (List.getElem?_eq_getElem (he.trans hlt))
  simpa using hx

theorem withRow (h : f.IsFirst model place r) {r' : Row} (hr' : r'.model = model) :
    (f.withRow place r').IsFirst model place r' where
  here := by
    obtain ⟨hlt, _⟩ := List.getElem?_eq_some_iff.1 h.here
    simp [Form.withRow, hlt]
  named := hr'
  first earlier x he hx := by
    rw [Form.withRow, List.getElem?_set_ne (Nat.ne_of_gt he)] at hx
    exact h.first earlier x he hx

theorem update_eq (h : f.IsFirst model place r) (change : Row → Row) :
    f.update model change = f.withRow place (change r) := by
  have hrows : updateFirst model change f.rows = f.rows.set place (change r) := by
    obtain ⟨hhere, hnamed, hfirst⟩ := h
    generalize f.rows = rows at hhere hfirst
    induction rows generalizing place with
    | nil => cases hhere
    | cons x rest ih =>
      cases place with
      | zero =>
        obtain rfl : x = r := by simpa using hhere
        rw [updateFirst, if_pos hnamed, List.set_cons_zero]
      | succ place =>
        have hx : x.model ≠ model := hfirst 0 x (Nat.zero_lt_succ _) rfl
        rw [updateFirst, if_neg hx, List.set_cons_succ,
          ih (by simpa using hhere) fun earlier y he hy =>
            hfirst (earlier + 1) y (Nat.succ_lt_succ he) hy]
  exact congrArg (fun rows => { f with rows := rows }) hrows

theorem setsAttribute (h : f.IsFirst model place r) (key : String) (value : Json) :
    f.SetsAttribute model key value
      (f.withRow place { r with attributes := r.attributes.insert key value }) :=
  ⟨place, r, _, h, rfl, fun k => Bag.get?_insert _ key k value⟩

theorem problems_eq (h : f.IsFirst model place r) : f.problems model = .ok r.problems := by
  rw [problems, row_eq_ok_iff.2 h.row?_eq]
  rfl

end IsFirst

theorem exists_isFirst (h : model ∈ f.models) : ∃ place r, f.IsFirst model place r := by
  obtain ⟨x, hx, hmodel⟩ := List.mem_map.1 h
  have hsome : (f.rows.findIdx? (·.model == model)).isSome = true := by
    rw [List.findIdx?_isSome]
    exact List.any_eq_true.2 ⟨x, hx, by simpa using hmodel⟩
  obtain ⟨place, hplace⟩ := Option.isSome_iff_exists.1 hsome
  obtain ⟨hlt, hnamed, hfirst⟩ := List.findIdx?_eq_some_iff_getElem.1 hplace
  refine ⟨place, f.rows[place], List.getElem?_eq_getElem hlt, by simpa using hnamed, ?_⟩
  intro earlier y he hy
  obtain ⟨_, rfl⟩ := List.getElem?_eq_some_iff.1 hy
  simpa using hfirst earlier he

theorem row?_eq_none (h : model ∉ f.models) : f.row? model = none := by
  rw [row?, List.find?_eq_none]
  intro x hx hmodel
  exact h (List.mem_map.2 ⟨x, hx, by simpa using hmodel⟩)

theorem position?_eq_none (h : model ∉ f.models) : f.position? model = none := by
  rw [position?, List.findIdx?_eq_none_iff]
  intro x hx
  have hne : x.model ≠ model := fun hmodel => h (List.mem_map.2 ⟨x, hx, hmodel⟩)
  simpa using hne

theorem row_of_not_mem (h : model ∉ f.models) : f.row model = .error (.unknownModel model) := by
  rw [row, row?_eq_none h]

end Form

namespace Editing
variable {α : Type} {f : Form} {model : String} {place : Nat} {r : Row}

@[simp] theorem run_throw (e : FormError) (f : Form) :
    (throw e : Editing α).run f = .error e f := rfl

theorem run_find_of_isFirst (h : f.IsFirst model place r) :
    (find model).run f = .ok (place, r) f := by
  simp [find, h.position?_eq, h.row?_eq]

theorem run_find_of_not_mem (h : model ∉ f.models) :
    (find model).run f = .error (.unknownModel model) f := by
  simp [find, Form.position?_eq_none h]

/-! ## Steps one after the other -/

section Bind
variable {β : Type} {f g : Form} {step : Editing α} (next : α → Editing β)

theorem run_bind_of_ok {a : α} (h : step.run f = .ok a g) :
    (step >>= next).run f = (next a).run g := by
  show EStateM.bind step next f = _
  have hstep : step f = .ok a g := h
  rw [EStateM.bind, hstep]
  rfl

theorem run_bind_of_error {e : FormError} (h : step.run f = .error e g) :
    (step >>= next).run f = .error e g := by
  show EStateM.bind step next f = _
  have hstep : step f = .error e g := h
  rw [EStateM.bind, hstep]

end Bind

/-! ## What a step comes to -/

/-- A step is refused for such a reason and leaves the form as it was, or it answers so and leaves
such a form. Either way it leaves what the operation makes of the form. -/
def Performs (step : Editing α) (op : Operation) (f : Form) (refused : FormError → Prop)
    (done : α → Form → Prop) : Prop :=
  match step.run f with
  | .error e g => refused e ∧ g = f ∧ f.perform op = f
  | .ok a g => done a g ∧ f.perform op = g

section Performing
variable {step : Editing α} {op : Operation} {refused : FormError → Prop} {done : α → Form → Prop}

theorem Performs.of_error {e : FormError} (h : step.run f = .error e f) (he : refused e)
    (hop : f.perform op = f) : step.Performs op f refused done := by
  rw [Performs, h]
  exact ⟨he, rfl, hop⟩

theorem Performs.of_ok {a : α} {g : Form} (h : step.run f = .ok a g) (ha : done a g)
    (hop : f.perform op = g) : step.Performs op f refused done := by
  rw [Performs, h]
  exact ⟨ha, hop⟩

end Performing

theorem performs_select (f : Form) (model : String) :
    (select model).Performs (.select model) f
      (fun e => model ∉ f.models ∧ e = .unknownModel model)
      fun _ g => ∃ place r, f.IsFirst model place r ∧ g = { f with selected := some place } := by
  by_cases hm : model ∈ f.models
  · obtain ⟨place, r, h⟩ := Form.exists_isFirst hm
    refine .of_ok (run_bind_of_ok _ (run_find_of_isFirst h)) ⟨place, r, h, rfl⟩ ?_
    rw [Form.perform, Form.select, h.position?_eq]
    rfl
  · refine .of_error (run_bind_of_error _ (run_find_of_not_mem hm)) ⟨hm, rfl⟩ ?_
    rw [Form.perform, Form.select, Form.position?_eq_none hm]
    rfl

theorem performs_setWhitelist (f : Form) (model display : String) :
    (setWhitelist model display).Performs (.setWhitelist model display) f
      (fun e => (model ∉ f.models ∧ e = .unknownModel model) ∨
        ∃ place r, f.IsFirst model place r ∧ r.macroName = none ∧ e = .noWhitelist model)
      fun _ g => ∃ place r, f.IsFirst model place r ∧ r.macroName.isSome = true ∧
        g = f.withRow place { r with whitelist := Whitelist.tidy display } := by
  by_cases hm : model ∈ f.models
  · obtain ⟨place, r, h⟩ := Form.exists_isFirst hm
    have hrun : (setWhitelist model display).run f =
        (if r.macroName.isNone then throw (.noWhitelist model)
          else put place { r with whitelist := Whitelist.tidy display } : Editing Unit).run f :=
      run_bind_of_ok _ (run_find_of_isFirst h)
    by_cases hwithout : r.macroName = none
    · rw [if_pos (by simp [hwithout])] at hrun
      exact .of_error hrun (.inr ⟨place, r, h, hwithout, rfl⟩)
        (Form.perform_setWhitelist_of_none h.row?_eq hwithout display)
    · have hsome : r.macroName.isNone = false := by
        simpa [Option.isSome_iff_ne_none] using hwithout
      rw [if_neg (by simp [hsome])] at hrun
      refine .of_ok hrun ⟨place, r, h, by simpa using hsome, rfl⟩ ?_
      rw [Form.perform, Form.setWhitelist_of_row? h.row?_eq, hsome]
      exact h.update_eq _
  · refine .of_error (run_bind_of_error _ (run_find_of_not_mem hm)) (.inl ⟨hm, rfl⟩) ?_
    rw [Form.perform, Form.setWhitelist, Form.row_of_not_mem hm]
    rfl

/-! ### Attributes -/

section Attributes
variable {offered : Features → Bool} {refusal : FormError} {key : String} {value : Json}

theorem run_setAttribute_of_not_offered (h : offered f.features = false) :
    (setAttribute offered refusal model key value).run f = .error refusal f := by
  show (if !offered f.features then _ else _ : Editing Row).run f = _
  rw [h]
  rfl

theorem run_setAttribute_of_offered (h : offered f.features = true) :
    (setAttribute offered refusal model key value).run f = (do
      let (place, r) ← find model
      let edited := { r with attributes := r.attributes.insert key value }
      put place edited
      return edited : Editing Row).run f := by
  show (if !offered f.features then _ else _ : Editing Row).run f = _
  rw [h]
  rfl

theorem run_setAttribute_of_not_mem (h : offered f.features = true) (hm : model ∉ f.models) :
    (setAttribute offered refusal model key value).run f = .error (.unknownModel model) f :=
  (run_setAttribute_of_offered h).trans (run_bind_of_error _ (run_find_of_not_mem hm))

theorem run_setAttribute_of_isFirst (h : offered f.features = true)
    (hr : f.IsFirst model place r) :
    (setAttribute offered refusal model key value).run f =
      .ok { r with attributes := r.attributes.insert key value }
        (f.withRow place { r with attributes := r.attributes.insert key value }) :=
  (run_setAttribute_of_offered h).trans (run_bind_of_ok _ (run_find_of_isFirst hr))

end Attributes

theorem performs_setSetting (f : Form) (model : String) (s : Setting) (value : Json) :
    (setSetting model s value).Performs (.setSetting model s value) f
      (f.WithholdsAttribute (f.features.allows s) (.settingUnavailable s) model)
      fun problems g => f.features.allows s = true ∧
        f.SetsAttribute model s.attributeName value g ∧ g.problems model = .ok problems := by
  cases hs : f.features.allows s with
  | false =>
    refine .of_error (run_bind_of_error _ (run_setAttribute_of_not_offered hs))
      (.inl ⟨rfl, rfl⟩) ?_
    rw [Form.perform, Form.setSetting, hs]
    rfl
  | true =>
    by_cases hm : model ∈ f.models
    · obtain ⟨place, r, h⟩ := Form.exists_isFirst hm
      -- the row that is put back is again the first of its name
      have hnamed : Row.model { r with attributes := r.attributes.insert s.attributeName value } =
          model := h.named
      refine .of_ok (run_bind_of_ok _ (run_setAttribute_of_isFirst hs h))
        ⟨rfl, h.setsAttribute _ value, (h.withRow hnamed).problems_eq⟩ ?_
      rw [Form.perform, Form.setSetting, hs, Form.row_eq_ok_iff.2 h.row?_eq]
      exact h.update_eq _
    · refine .of_error (run_bind_of_error _ (run_setAttribute_of_not_mem hs hm))
        (.inr ⟨rfl, hm, rfl⟩) ?_
      rw [Form.perform, Form.setSetting, hs, Form.row_of_not_mem hm]
      rfl

theorem performs_setTags (f : Form) (model tags : String) :
    (setTags model tags).Performs (.setTags model tags) f
      (f.WithholdsAttribute f.features.tagsWhitelist .tagsUnavailable model)
      fun _ g => f.features.tagsWhitelist = true ∧
        f.SetsAttribute model tagsAttribute (.string (Whitelist.tidy tags)) g := by
  cases ht : f.features.tagsWhitelist with
  | false =>
    refine .of_error (run_bind_of_error _ (run_setAttribute_of_not_offered ht))
      (.inl ⟨rfl, rfl⟩) ?_
    rw [Form.perform, Form.setTags, ht]
    rfl
  | true =>
    by_cases hm : model ∈ f.models
    · obtain ⟨place, r, h⟩ := Form.exists_isFirst hm
      refine .of_ok (run_bind_of_ok _ (run_setAttribute_of_isFirst ht h))
        ⟨rfl, h.setsAttribute _ _⟩ ?_
      rw [Form.perform, Form.setTags, ht, Form.row_eq_ok_iff.2 h.row?_eq]
      exact h.update_eq _
    · refine .of_error (run_bind_of_error _ (run_setAttribute_of_not_mem ht hm))
        (.inr ⟨rfl, hm, rfl⟩) ?_
      rw [Form.perform, Form.setTags, ht, Form.row_of_not_mem hm]
      rfl

/-- An edit that is refused leaves the form as it was, and is refused only for a data model, a macro
or an offer of the server that is missing. An edit that is made changes one thing: the selection, or
in the first row of the data model the whitelist or the value of one attribute. Setting a setting
answers with the problems that the form then has for the data model. -/
theorem edits_in_place (f : Form) (model : String) :
    (select model).Performs (.select model) f
      (fun e => model ∉ f.models ∧ e = .unknownModel model)
      (fun _ g => ∃ place r, f.IsFirst model place r ∧ g = { f with selected := some place }) ∧
    (∀ display, (setWhitelist model display).Performs (.setWhitelist model display) f
      (fun e => (model ∉ f.models ∧ e = .unknownModel model) ∨
        ∃ place r, f.IsFirst model place r ∧ r.macroName = none ∧ e = .noWhitelist model)
      fun _ g => ∃ place r, f.IsFirst model place r ∧ r.macroName.isSome = true ∧
        g = f.withRow place { r with whitelist := Whitelist.tidy display }) ∧
    (∀ s value, (setSetting model s value).Performs (.setSetting model s value) f
      (f.WithholdsAttribute (f.features.allows s) (.settingUnavailable s) model)
      fun problems g => f.features.allows s = true ∧
        f.SetsAttribute model s.attributeName value g ∧ g.problems model = .ok problems) ∧
    ∀ tags, (setTags model tags).Performs (.setTags model tags) f
      (f.WithholdsAttribute f.features.tagsWhitelist .tagsUnavailable model)
      fun _ g => f.features.tagsWhitelist = true ∧
        f.SetsAttribute model tagsAttribute (.string (Whitelist.tidy tags)) g :=
  ⟨performs_select f model, performs_setWhitelist f model, performs_setSetting f model,
    performs_setTags f model⟩

end Editing

end AccelForm
