import AccelForm.Proofs.Command.Edits
import AccelForm.Proofs.Form.Order
/-
  Edits in any order

  An edit changes the row of its data model and nothing else
  (`make_eq_ok_iff`), so the edits of a data model change its row one after the
  other. If no setting is named twice the settings can be set in any order: the
  rows differ at most in the order of their attributes. The edits of two files
  that differ only in that are therefore both made, and then lead to forms that
  differ in no more, or both refused (`apply_reordered`).
-/

namespace AccelForm

/-- The edits of a data model with its settings in another order, no setting being named twice. -/
structure ModelEdits.Reordered (e e' : ModelEdits) : Prop where
  indexes : e.indexes = e'.indexes
  tags : e.tags = e'.tags
  settings : e.settings.Perm e'.settings
  apart : e.settings.Pairwise fun a b => Setting.Apart a.1 b.1

theorem ModelEdits.Reordered.symm {e e' : ModelEdits} (h : e.Reordered e') : e'.Reordered e :=
  ⟨h.indexes.symm, h.tags.symm, h.settings.symm,
    (h.settings.pairwise_iff Setting.Apart.symm).1 h.apart⟩

theorem Form.Reordered.sameShape {f f' : Form} (h : f.Reordered f') : SameShape f f' where
  features := h.features_eq.symm
  macroName model := (h.row?_map_eq model Row.Reordered.macroName_eq).symm

namespace Edits

open Form

variable {f f' g : Form} {model : String} {r r' : Row} {e : Edit} {es : List Edit}

/-! ## Edits as changes of a row -/

def Edit.change : Edit → Row → Row
  | .whitelist display, r => { r with whitelist := Whitelist.tidy display }
  | .tags display, r =>
    { r with attributes := r.attributes.insert tagsAttribute (.string (Whitelist.tidy display)) }
  | .setting e, r => { r with attributes := r.attributes.assign e }

theorem Edit.model_change (e : Edit) (r : Row) : (e.change r).model = r.model := by
  cases e <;> rfl

theorem eq_update_of_make (h : make model f e = .ok g) : g = f.update model e.change := by
  cases e with
  | whitelist display =>
    obtain ⟨_, _, _, rfl⟩ := setWhitelist_eq_ok h
    rfl
  | tags display =>
    obtain ⟨_, _, rfl⟩ := setTags_eq_ok h
    rfl
  | setting e =>
    change setNamed f model e = .ok g at h
    unfold setNamed at h
    split at h
    · cases h
    · next s hs =>
      obtain ⟨_, _, rfl⟩ := setSetting_eq_ok h
      refine congrArg (f.update model) (funext fun r => ?_)
      rw [Edit.change, Bag.assign_eq_insert hs]

/-- The form makes an edit if it accepts it, and then changes the row of the data model. -/
theorem make_eq_ok_iff : make model f e = .ok g ↔
    Accepts f model e ∧ g = f.update model e.change := by
  constructor
  · exact fun h => ⟨(make_eq_ok h).1, eq_update_of_make h⟩
  · rintro ⟨haccepts, rfl⟩
    cases hmake : make model f e with
    | error refusal => exact absurd haccepts (make_eq_error hmake).1
    | ok g => rw [eq_update_of_make hmake]

/-- What edits do to the row of their data model, one after the other. -/
def changes (es : List Edit) (r : Row) : Row := es.foldl (fun r e => e.change r) r

theorem makeAll_of_accepts (h : ∀ e ∈ es, Accepts f model e) :
    makeAll (make model) f es = (f.update model (changes es), .ok ()) := by
  induction es generalizing f with
  | nil =>
    have hrows : updateFirst model (changes []) f.rows = f.rows :=
      updateFirst_eq_self fun _ _ => rfl
    exact Prod.ext (congrArg (fun rows => { f with rows }) hrows.symm) rfl
  | cons e rest ih =>
    have hmake : make model f e = .ok (f.update model e.change) :=
      make_eq_ok_iff.2 ⟨h e (by simp), rfl⟩
    -- what the form accepts it still accepts after an edit
    have hshape := (make_eq_ok hmake).2
    rw [makeAll, hmake]
    show makeAll (make model) (f.update model e.change) rest = _
    rw [ih fun e' he' => (Accepts.congr hshape model e').2 (h e' (List.mem_cons_of_mem _ he')),
      update_update e.model_change]
    rfl

/-- Edits are made if the form accepts them all. -/
theorem makeAll_eq_ok_iff : makeAll (make model) f es = (g, .ok ()) ↔
    (∀ e ∈ es, Accepts f model e) ∧ g = f.update model (changes es) := by
  constructor
  · intro h
    have haccepts := (makeAll_eq_ok h).1
    rw [makeAll_of_accepts haccepts] at h
    exact ⟨haccepts, (Prod.mk.inj h).1.symm⟩
  · rintro ⟨haccepts, rfl⟩
    exact makeAll_of_accepts haccepts

/-! ## Edits of a data model in another order -/

theorem Edit.change_reordered (e : Edit) (h : r.Reordered r') :
    (e.change r).Reordered (e.change r') := by
  obtain ⟨b, hb, rfl⟩ := h
  cases e with
  | whitelist display => exact ⟨b, hb, rfl⟩
  | tags display => exact ⟨_, hb.insert _ _, rfl⟩
  | setting e => exact ⟨_, hb.foldl_assign (.refl [e]) (List.pairwise_singleton _ _), rfl⟩

theorem changes_reordered (h : r.Reordered r') (es : List Edit) :
    (changes es r).Reordered (changes es r') := by
  induction es generalizing r r' with
  | nil => exact h
  | cons e rest ih => exact ih (e.change_reordered h)

theorem changes_settings (es : List (String × Json)) (r : Row) :
    changes (es.map .setting) r = { r with attributes := es.foldl Bag.assign r.attributes } := by
  induction es generalizing r with
  | nil => rfl
  | cons e rest ih => exact ih _

theorem changes_append (es es' : List Edit) (r : Row) :
    changes (es ++ es') r = changes es' (changes es r) := List.foldl_append

/-- The settings can be set in any order. -/
theorem changes_steps_reordered {e e' : ModelEdits} (he : e.Reordered e') (h : r.Reordered r') :
    (changes (steps e) r).Reordered (changes (steps e') r') := by
  unfold steps
  rw [← he.indexes, ← he.tags]
  -- the whitelists come first in both, and only then the settings in their two orders
  generalize (e.indexes.map Edit.whitelist).toList ++ (e.tags.map Edit.tags).toList = first
  obtain ⟨b, hb, hrow⟩ := changes_reordered h first
  rw [changes_append, changes_append, changes_settings, changes_settings, hrow]
  exact ⟨_, hb.foldl_assign he.settings he.apart, rfl⟩

theorem steps_perm {e e' : ModelEdits} (he : e.Reordered e') : (steps e).Perm (steps e') := by
  unfold steps
  rw [he.indexes, he.tags]
  exact (he.settings.map _).append_left _

theorem makeAll_reordered (h : f.Reordered f') {e e' : ModelEdits} (he : e.Reordered e')
    (hmake : makeAll (make model) f (steps e) = (g, .ok ())) :
    ∃ g', makeAll (make model) f' (steps e') = (g', .ok ()) ∧ g.Reordered g' := by
  obtain ⟨haccepts, rfl⟩ := makeAll_eq_ok_iff.1 hmake
  refine ⟨_, makeAll_of_accepts fun edit hedit => ?_,
    h.update model fun hr => changes_steps_reordered he hr⟩
  exact (Accepts.congr h.sameShape model edit).2 (haccepts edit ((steps_perm he).mem_iff.2 hedit))

theorem noted_eq (h : f.Reordered f') {e e' : ModelEdits} (he : e.Reordered e') :
    noted f model e = noted f' model e' := by
  have hnoted (f : Form) (e : ModelEdits) : noted f model e =
      ((f.row? model).map Row.problems).elim [] fun problems =>
        if e.settings.isEmpty || problems.isEmpty then [] else [⟨model, problems⟩] := by
    unfold noted
    cases f.row? model <;> rfl
  rw [hnoted, hnoted, h.row?_map_eq model Row.Reordered.problems_eq, he.settings.isEmpty_eq]

/-! ## Files in another order -/

/-- The edits of two files that differ only in the order of the settings of each data model. -/
def Reordered (edits edits' : Edits) : Prop :=
  List.Forall₂ (fun p p' => p.1 = p'.1 ∧ p.2.Reordered p'.2) edits edits'

theorem Reordered.symm {edits edits' : Edits} (h : edits.Reordered edits') :
    edits'.Reordered edits :=
  h.flip.imp fun _ _ hp => ⟨hp.1.symm, hp.2.symm⟩

/-- If the edits of one file are made, so are those of the other. -/
theorem apply_eq_ok_reordered {edits edits' : Edits} {invalid : List InvalidChange}
    (hedits : edits.Reordered edits') (h : f.Reordered f')
    (happly : apply f edits = (g, .ok invalid)) :
    ∃ g', apply f' edits' = (g', .ok invalid) ∧ g.Reordered g' := by
  induction hedits generalizing f f' g invalid with
  | nil =>
    cases happly
    exact ⟨f', rfl, h⟩
  | @cons p p' rest rest' hp _ ih =>
    obtain ⟨model, e⟩ := p
    obtain ⟨_, e'⟩ := p'
    obtain ⟨rfl, he⟩ := hp
    rcases apply_cons f model e rest with ⟨_, _, _, herror⟩ | ⟨next, hmake, hnext⟩
    · rw [herror] at happly
      cases happly
    · obtain ⟨next', hmake', hreordered⟩ := makeAll_reordered h he hmake
      rcases hrest : apply next rest with ⟨last, result⟩
      rw [hnext, hrest] at happly
      cases result with
      | error refusal => cases happly
      | ok later =>
        obtain ⟨last', hrest', hlast⟩ := ih hreordered hrest
        cases happly
        refine ⟨last', ?_, hlast⟩
        rw [noted_eq hreordered he, apply, hmake']
        dsimp only
        rw [hrest']
        rfl

/-- Either the edits of both files are made and lead to forms that differ only in the order of
edited attributes, with the same problems noted, or both files are refused with one exit code. -/
theorem apply_reordered {edits edits' : Edits} (hedits : edits.Reordered edits') (f : Form) :
    (∃ g g' invalid, apply f edits = (g, .ok invalid) ∧ apply f edits' = (g', .ok invalid) ∧
      g.Reordered g') ∨
    ∃ g g' refusal refusal', apply f edits = (g, .error refusal) ∧
      apply f edits' = (g', .error refusal') ∧
      ExitCode.ofFormError refusal' = ExitCode.ofFormError refusal := by
  rcases happly : apply f edits with ⟨g, result⟩
  cases result with
  | ok invalid =>
    obtain ⟨g', happly', hreordered⟩ := apply_eq_ok_reordered hedits (.refl f) happly
    exact .inl ⟨g, g', invalid, rfl, happly', hreordered⟩
  | error refusal =>
    rcases happly' : apply f edits' with ⟨g', result'⟩
    cases result' with
    | ok invalid =>
      -- the relation is symmetric, so the first file would have been accepted too
      obtain ⟨_, hok, _⟩ := apply_eq_ok_reordered hedits.symm (.refl f) happly'
      rw [happly] at hok
      cases hok
    | error refusal' =>
      refine .inr ⟨g, g', refusal, refusal', rfl, rfl, ?_⟩
      rw [(apply_eq_error happly').2, (apply_eq_error happly).2]

end Edits

end AccelForm
