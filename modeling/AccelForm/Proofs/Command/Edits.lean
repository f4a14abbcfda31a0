import AccelForm.Command.Edits
import AccelForm.Command.ExitCode
import AccelForm.Proofs.Form.Edit
/-
  Edits that are refused

  Whether the form makes an edit depends on what no edit changes: what the
  server offers, the data models and their macros (`SameShape`). So whether
  the edits of a file are all made can be told from the form as it was opened
  (`apply_spec`): one edit that the form refuses (`Refused`), wherever it
  stands, and the whole file is refused.
-/

namespace AccelForm

namespace Form

/-- Whether two forms offer the same and have the same data models with the same macros. -/
structure SameShape (f g : Form) : Prop where
  features : g.features = f.features
  macroName : ∀ model, (g.row? model).map Row.macroName = (f.row? model).map Row.macroName

variable {f g k : Form} {model : String}

theorem SameShape.refl (f : Form) : SameShape f f := ⟨rfl, fun _ => rfl⟩

theorem SameShape.trans (h : SameShape f g) (h' : SameShape g k) : SameShape f k :=
  ⟨h'.features.trans h.features, fun model => (h'.macroName model).trans (h.macroName model)⟩

theorem SameShape.isSome_row? (h : SameShape f g) (model : String) :
    (g.row? model).isSome = (f.row? model).isSome := by
  have hmacroName := congrArg Option.isSome (h.macroName model)
  rwa [Option.isSome_map, Option.isSome_map] at hmacroName

theorem sameShape_update (f : Form) (model : String) {change : Row → Row}
    (hmodel : ∀ r, (change r).model = r.model)
    (hmacroName : ∀ r, (change r).macroName = r.macroName) :
    SameShape f (f.update model change) where
  features := rfl
  macroName name := by
    show ((updateFirst model change f.rows).find? (·.model == name)).map Row.macroName =
      (f.rows.find? (·.model == name)).map Row.macroName
    induction f.rows with
    | nil => rfl
    | cons r rest ih =>
      unfold updateFirst
      split
      · by_cases hr : r.model = name
        · simp [hmodel, hmacroName, hr]
        · simp [hmodel, hr]
      · by_cases hr : r.model = name
        · simp [hr]
        · simpa [hr] using ih

end Form

namespace Edits

open Form

/-- Whether a form makes an edit of a data model. -/
def Accepts (f : Form) (model : String) : Edit → Prop
  | .whitelist _ => ∃ name, (f.row? model).map Row.macroName = some (some name)
  | .tags _ => f.features.tagsWhitelist = true ∧ (f.row? model).isSome = true
  | .setting e => ∃ s, Setting.ofName? e.1 = some s ∧ f.features.allows s = true ∧
      (f.row? model).isSome = true

variable {f g : Form} {model : String}

theorem Accepts.congr (h : SameShape f g) (model : String) (e : Edit) :
    Accepts g model e ↔ Accepts f model e := by
  cases e with
  | whitelist display => simp only [Accepts, h.macroName]
  | tags display => simp only [Accepts, h.features, h.isSome_row?]
  | setting e => simp only [Accepts, h.features, h.isSome_row?]

/-! ## One edit -/

theorem make_eq_ok {e : Edit} (h : make model f e = .ok g) : Accepts f model e ∧ SameShape f g := by
  cases e with
  | whitelist display =>
    obtain ⟨r, hr, hm, rfl⟩ := setWhitelist_eq_ok h
    obtain ⟨name, hname⟩ := Option.isSome_iff_exists.1 hm
    exact ⟨⟨name, by rw [hr, Option.map_some, hname]⟩,
      sameShape_update f model (fun _ => rfl) fun _ => rfl⟩
  | tags display =>
    obtain ⟨ht, hr, rfl⟩ := setTags_eq_ok h
    exact ⟨⟨ht, hr⟩, sameShape_update f model (fun _ => rfl) fun _ => rfl⟩
  | setting e =>
    change setNamed f model e = .ok g at h
    unfold setNamed at h
    split at h
    · cases h
    · next s hs =>
      obtain ⟨ha, hr, rfl⟩ := setSetting_eq_ok h
      exact ⟨⟨s, hs, ha, hr⟩, sameShape_update f model (fun _ => rfl) fun _ => rfl⟩

theorem row_eq_error {e : FormError} (h : f.row model = .error e) :
    f.row? model = none ∧ e = .unknownModel model := by
  unfold Form.row at h
  split at h
  · cases h
  · next hr => exact ⟨hr, (Except.error.inj h).symm⟩

theorem make_eq_error {e : Edit} {refusal : FormError} (h : make model f e = .error refusal) :
    ¬ Accepts f model e ∧ ExitCode.ofFormError refusal = .validation := by
  cases e with
  | whitelist display =>
    change f.setWhitelist model display = .error refusal at h
    unfold setWhitelist at h
    cases hr : f.row model with
    | error e =>
      obtain ⟨hnone, rfl⟩ := row_eq_error hr
      rw [hr] at h
      cases h
      exact ⟨by simp [Accepts, hnone], rfl⟩
    | ok r =>
      rw [hr] at h
      change (if r.macroName.isNone then _ else _) = _ at h
      split at h
      · next hm =>
        cases h
        exact ⟨by simp [Accepts, row_eq_ok_iff.1 hr, Option.isNone_iff_eq_none.1 hm], rfl⟩
      · cases h
  | tags display =>
    change f.setTags model display = .error refusal at h
    unfold setTags at h
    split at h
    · next ht =>
      cases h
      exact ⟨fun ha => by simp [ha.1] at ht, rfl⟩
    · cases hr : f.row model with
      | error e =>
        obtain ⟨hnone, rfl⟩ := row_eq_error hr
        rw [hr] at h
        cases h
        exact ⟨by simp [Accepts, hnone], rfl⟩
      | ok r => rw [hr] at h; cases h
  | setting e =>
    change setNamed f model e = .error refusal at h
    unfold setNamed at h
    split at h
    · next hs =>
      cases h
      exact ⟨by simp [Accepts, hs], rfl⟩
    · next s hs =>
      unfold setSetting at h
      split at h
      · next ha =>
        cases h
        refine ⟨?_, rfl⟩
        rintro ⟨s', hs', ha', _⟩
        rw [hs, Option.some.injEq] at hs'
        rw [hs', ha'] at ha
        cases ha
      · cases hr : f.row model with
        | error e =>
          obtain ⟨hnone, rfl⟩ := row_eq_error hr
          rw [hr] at h
          cases h
          exact ⟨by simp [Accepts, hnone], rfl⟩
        | ok r => rw [hr] at h; cases h

/-! ## All edits -/

theorem makeAll_eq_ok {es : List Edit} (h : makeAll (make model) f es = (g, .ok ())) :
    (∀ e ∈ es, Accepts f model e) ∧ SameShape f g := by
  induction es generalizing f with
  | nil => cases h; exact ⟨by simp, .refl _⟩
  | cons e rest ih =>
    unfold makeAll at h
    cases hmake : make model f e with
    | error refusal => rw [hmake] at h; cases h
    | ok next =>
      rw [hmake] at h
      obtain ⟨he, hshape⟩ := make_eq_ok hmake
      obtain ⟨hrest, hshape'⟩ := ih h
      refine ⟨fun e' he' => ?_, hshape.trans hshape'⟩
      -- the later edits were made in `next`, which accepts what `f` accepts
      rcases List.mem_cons.1 he' with rfl | he'
      · exact he
      · exact (Accepts.congr hshape model e').1 (hrest e' he')

theorem makeAll_eq_error {es : List Edit} {refusal : FormError}
    (h : makeAll (make model) f es = (g, .error refusal)) :
    (∃ e ∈ es, ¬ Accepts f model e) ∧ ExitCode.ofFormError refusal = .validation := by
  induction es generalizing f with
  | nil => cases h
  | cons e rest ih =>
    unfold makeAll at h
    cases hmake : make model f e with
    | error e' =>
      rw [hmake] at h
      cases h
      obtain ⟨hno, hcode⟩ := make_eq_error hmake
      exact ⟨⟨e, by simp, hno⟩, hcode⟩
    | ok next =>
      rw [hmake] at h
      obtain ⟨⟨e', he', hno⟩, hcode⟩ := ih h
      have hshape := (make_eq_ok hmake).2
      exact ⟨⟨e', List.mem_cons_of_mem _ he', mt (Accepts.congr hshape model e').2 hno⟩, hcode⟩

/-- What the edits of the first data model do to the edits of a file. -/
theorem apply_cons (f : Form) (model : String) (es : ModelEdits) (rest : Edits) :
    (∃ stopped refusal, makeAll (make model) f (steps es) = (stopped, .error refusal) ∧
      apply f ((model, es) :: rest) = (stopped, .error refusal)) ∨
    ∃ next, makeAll (make model) f (steps es) = (next, .ok ()) ∧
      apply f ((model, es) :: rest) =
        ((apply next rest).1, (apply next rest).2.map (noted next model es ++ ·)) := by
  rcases hmake : makeAll (make model) f (steps es) with ⟨next, result⟩
  cases result with
  | error refusal => exact .inl ⟨next, refusal, rfl, by rw [apply, hmake]⟩
  | ok _ => exact .inr ⟨next, rfl, by rw [apply, hmake]⟩

theorem apply_eq_ok {edits : Edits} {invalid : List InvalidChange}
    (h : apply f edits = (g, .ok invalid)) : ∀ p ∈ edits, ∀ e ∈ steps p.2, Accepts f p.1 e := by
  induction edits generalizing f g invalid with
  | nil => simp
  | cons p rest ih =>
    obtain ⟨model, es⟩ := p
    rcases apply_cons f model es rest with ⟨_, _, _, happly⟩ | ⟨next, hmake, happly⟩
    · rw [happly] at h
      cases h
    · obtain ⟨hes, hshape⟩ := makeAll_eq_ok hmake
      rcases hrest : apply next rest with ⟨last, result⟩
      rw [happly, hrest] at h
      cases result with
      | error refusal => cases h
      | ok noted =>
        intro p hp e he
        rcases List.mem_cons.1 hp with rfl | hp
        · exact hes e he
        · exact (Accepts.congr hshape p.1 e).1 (ih hrest p hp e he)

theorem apply_eq_error {edits : Edits} {refusal : FormError}
    (h : apply f edits = (g, .error refusal)) :
    (∃ p ∈ edits, ∃ e ∈ steps p.2, ¬ Accepts f p.1 e) ∧
      ExitCode.ofFormError refusal = .validation := by
  induction edits generalizing f with
  | nil => cases h
  | cons p rest ih =>
    obtain ⟨model, es⟩ := p
    rcases apply_cons f model es rest with ⟨_, _, hmake, happly⟩ | ⟨next, hmake, happly⟩
    · rw [happly] at h
      cases h
      obtain ⟨⟨e, he, hno⟩, hcode⟩ := makeAll_eq_error hmake
      exact ⟨⟨(model, es), by simp, e, he, hno⟩, hcode⟩
    · have hshape := (makeAll_eq_ok hmake).2
      rcases hrest : apply next rest with ⟨last, result⟩
      rw [happly, hrest] at h
      cases result with
      | ok noted => cases h
      | error e' =>
        cases h
        obtain ⟨⟨p, hp, e, he, hno⟩, hcode⟩ := ih hrest
        exact ⟨⟨p, List.mem_cons_of_mem _ hp, e, he, mt (Accepts.congr hshape p.1 e).2 hno⟩, hcode⟩

/-! ## Files that are refused -/

/-- Why the form refuses the edits of a data model. -/
inductive Refused (f : Form) (model : String) (es : ModelEdits) : Prop where
  | unknownModel (h : f.row? model = none) (hes : steps es ≠ [])
  | unknownSetting {name : String} {value : Json} (he : (name, value) ∈ es.settings)
      (h : Setting.ofName? name = none)
  | settingUnavailable {name : String} {value : Json} {s : Setting}
      (he : (name, value) ∈ es.settings) (hs : Setting.ofName? name = some s)
      (h : f.features.allows s = false)
  | tagsUnavailable (he : es.tags.isSome = true) (h : f.features.tagsWhitelist = false)
  | noWhitelist {r : Row} (he : es.indexes.isSome = true) (hr : f.row? model = some r)
      (h : r.macroName = none)

theorem mem_steps {es : ModelEdits} {e : Edit} : e ∈ steps es ↔
    (∃ display, es.indexes = some display ∧ e = .whitelist display) ∨
    (∃ display, es.tags = some display ∧ e = .tags display) ∨
    ∃ p ∈ es.settings, e = .setting p := by
  simp only [steps, List.mem_append, Option.mem_toList, Option.map_eq_some_iff, List.mem_map,
    or_assoc, eq_comm]

/-- The edits of a data model are refused exactly if the form does not make one of them. -/
theorem refused_iff {es : ModelEdits} :
    Refused f model es ↔ ∃ e ∈ steps es, ¬ Accepts f model e := by
  constructor
  · intro h
    cases h with
    | unknownModel h hes =>
      obtain ⟨e, he⟩ := List.exists_mem_of_ne_nil _ hes
      refine ⟨e, he, ?_⟩
      cases e <;> simp [Accepts, h]
    | unknownSetting he h =>
      exact ⟨_, mem_steps.2 (.inr (.inr ⟨_, he, rfl⟩)), by simp [Accepts, h]⟩
    | settingUnavailable he hs h =>
      exact ⟨_, mem_steps.2 (.inr (.inr ⟨_, he, rfl⟩)), by simp [Accepts, hs, h]⟩
    | tagsUnavailable he h =>
      obtain ⟨display, hd⟩ := Option.isSome_iff_exists.1 he
      exact ⟨_, mem_steps.2 (.inr (.inl ⟨display, hd, rfl⟩)), by simp [Accepts, h]⟩
    | noWhitelist he hr h =>
      obtain ⟨display, hd⟩ := Option.isSome_iff_exists.1 he
      exact ⟨_, mem_steps.2 (.inl ⟨display, hd, rfl⟩), by simp [Accepts, hr, h]⟩
  · rintro ⟨e, he, hno⟩
    cases hr : f.row? model with
    | none => exact .unknownModel hr (List.ne_nil_of_mem he)
    | some r =>
      rcases mem_steps.1 he with ⟨display, hd, rfl⟩ | ⟨display, hd, rfl⟩ | ⟨⟨name, value⟩, hp, rfl⟩
      · refine .noWhitelist (by rw [hd]; rfl) hr ?_
        cases hm : r.macroName with
        | none => rfl
        | some name => exact absurd ⟨name, by rw [hr, Option.map_some, hm]⟩ hno
      · refine .tagsUnavailable (by rw [hd]; rfl) (Bool.eq_false_iff.2 fun ht => hno ⟨ht, ?_⟩)
        rw [hr]
        rfl
      · cases hs : Setting.ofName? name with
        | none => exact .unknownSetting hp hs
        | some s =>
          refine .settingUnavailable hp hs (Bool.eq_false_iff.2 fun ha => hno ⟨s, hs, ha, ?_⟩)
          rw [hr]
          rfl

/-- The edits of a file are all made, or those of one data model are refused. -/
theorem apply_cases (f : Form) (edits : Edits) :
    (∃ g invalid, apply f edits = (g, .ok invalid) ∧ ∀ p ∈ edits, ¬ Refused f p.1 p.2) ∨
    ∃ g refusal, apply f edits = (g, .error refusal) ∧ (∃ p ∈ edits, Refused f p.1 p.2) ∧
      ExitCode.ofFormError refusal = .validation := by
  rcases happly : apply f edits with ⟨g, result⟩
  cases result with
  | ok invalid =>
    refine .inl ⟨g, invalid, rfl, fun p hp hno => ?_⟩
    obtain ⟨e, he, hno⟩ := refused_iff.1 hno
    exact hno (apply_eq_ok happly p hp e he)
  | error refusal =>
    obtain ⟨⟨p, hp, e, he, hno⟩, hcode⟩ := apply_eq_error happly
    exact .inr ⟨g, refusal, rfl, ⟨p, hp, refused_iff.2 ⟨e, he, hno⟩⟩, hcode⟩

end Edits

end AccelForm
