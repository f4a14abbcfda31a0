import AccelForm.Proofs.Form.Settle
/-
  No edit is dropped and nothing else is sent

  The changed names of a row are found by comparing whole bags, the parameters
  are made from the fixed list of what the server offers. That every changed
  name is among the parameters rests on an invariant of the rows
  (`Row.Contained`): a row differs from its baseline only in names that can be
  edited, and it has every name that its baseline has. Edits only set such
  names, a save puts some of them back to the baseline or makes the row its own
  baseline, and a baseline may itself hold any names at all.
-/

namespace AccelForm

namespace Row

/-- The edits of a row are contained in what can be edited, and no name of the baseline is lost. -/
structure Contained (features : Features) (r : Row) : Prop where
  agree : ∀ k, k ∉ features.editable → r.attributes.get? k = r.baseline.get? k
  keep : ∀ k, r.attributes.get? k = none → r.baseline.get? k = none

variable {features : Features} {r : Row}

theorem contained_of_eq (h : r.attributes = r.baseline) : Contained features r :=
  ⟨fun k _ => by rw [h], fun k hk => by rwa [← h]⟩

/-- Setting a name that can be edited. -/
theorem Contained.insert (h : Contained features r) {key : String} (hkey : key ∈ features.editable)
    (value : Json) :
    Contained features { r with attributes := r.attributes.insert key value } := by
  constructor
  · intro k hk
    have hne : k ≠ key := fun heq => hk (heq ▸ hkey)
    rw [Bag.get?_insert, if_neg hne]
    exact h.agree k hk
  · intro k hk
    rw [Bag.get?_insert] at hk
    split at hk
    · cases hk
    · exact h.keep k hk

theorem Contained.edit (h : Contained features r) {r' : Row} (hedit : Edit features r r') :
    Contained features r' := by
  cases hedit with
  | keep => exact h
  | whitelist => exact ⟨h.agree, h.keep⟩
  | setting hs value => exact h.insert (Features.attributeName_mem_editable.2 hs) value
  | tags ht tags => exact h.insert (Features.mem_editable.2 (.inr ⟨ht, rfl⟩)) _
  | discard => exact contained_of_eq rfl

/-- A name that was put back is as in the baseline, also where that has no value for it. -/
theorem Contained.revert (h : Contained features r) (problems : List Problem) :
    Contained features (r.revert problems) := by
  constructor
  · intro k hk
    rw [get?_revert, revert_baseline]
    split
    · rfl
    · exact h.agree k hk
  · intro k hk
    rw [get?_revert] at hk
    split at hk
    · exact hk
    · exact h.keep k hk

theorem Contained.reverted (h : Contained features r) : Contained features r.reverted := by
  unfold Row.reverted
  split
  · exact h.revert _
  · exact h

/-- A changed name can be edited, and the row has a value for it. -/
theorem Contained.of_mem_changedKeys (h : Contained features r) {k : String}
    (hk : k ∈ r.baseline.changedKeys r.attributes) :
    k ∈ features.editable ∧ ∃ v, r.attributes.get? k = some v := by
  have hne := Bag.get?_ne_of_mem_changedKeys hk
  constructor
  · by_contra hk
    exact hne (h.agree k hk)
  · cases hv : r.attributes.get? k with
    | none => exact absurd (hv.trans (h.keep k hv).symm) hne
    | some v => exact ⟨v, rfl⟩

end Row

/-- A save leaves the edits contained, whatever the replies. -/
theorem Row.Contained.settled {features : Features} {a : Answer}
    (h : Row.Contained features a.row) (status : Option Status) :
    Row.Contained features { a.settled features with status } := by
  cases hc : a.acceptedSettings? features with
  | none =>
    -- the baseline stays, and some names may have been put back to it
    have hb : (a.settled features).baseline = a.row.reverted.baseline := by
      rw [Answer.settled_baseline, hc, Row.reverted_baseline]; rfl
    refine ⟨fun k hk => ?_, fun k hk => ?_⟩
    · show (a.settled features).attributes.get? k = (a.settled features).baseline.get? k
      rw [Answer.settled_attributes, hb]
      exact h.reverted.agree k hk
    · change (a.settled features).attributes.get? k = none at hk
      show (a.settled features).baseline.get? k = none
      rw [Answer.settled_attributes] at hk
      rw [hb]
      exact h.reverted.keep k hk
  | some c =>
    -- settings that were taken over had no problems, so nothing was put back
    obtain ⟨_, hp, _⟩ := Row.settingsChange?_eq_some (Answer.settingsIf_eq_some hc)
    refine Row.contained_of_eq ?_
    show (a.settled features).attributes = (a.settled features).baseline
    rw [Answer.settled_attributes, Answer.settled_baseline, hc, Row.reverted_of_valid hp]
    rfl

namespace Form
variable {f : Form}

theorem Reachable.contained (h : Reachable f) : ∀ r ∈ f.rows, r.Contained f.features :=
  h.forall_rows (P := Row.Contained)
    (fun hr => Row.contained_of_eq (Row.unedited_of_mem_pair hr).2)
    (fun hedit hr => hr.edit hedit) (fun status hr => hr.settled status)

/-- Every update of a plan is made from the row that the form finds by the name of its data model.
It sends each changed name exactly once, with the text of the row's value, and sends only names that
the server offers for editing: none that says where an entity came from and none of a setting that
the release does not have. -/
theorem sent_of_mem_plan (h : f.Reachable) {c : SettingsChange} (hc : c ∈ f.plan.settings) :
    ∃ r, f.row? c.model = some r ∧ r.settingsChange? f.features = some c ∧
      (∀ k ∈ c.changedKeys, ∃ v t, r.attributes.get? k = some v ∧ Bag.SentAs k v t ∧
        c.params.filter (·.1 = k) = [(k, t)]) ∧
      (c.params.map Prod.fst).Nodup ∧
      (∀ k ∈ c.params.map Prod.fst, (∃ s, f.features.allows s = true ∧ k = s.attributeName) ∨
        (f.features.tagsWhitelist = true ∧ k = tagsAttribute)) ∧
      (∀ k ∈ provenanceAttributes, k ∉ c.params.map Prod.fst) ∧
      (∀ s, f.features.allows s = false → s.attributeName ∉ c.params.map Prod.fst) ∧
      (f.features.tagsWhitelist = false → tagsAttribute ∉ c.params.map Prod.fst) := by
  obtain ⟨r, hfirst, hrc⟩ := h.editsLead.mem_plan_settings.1 hc
  obtain ⟨_, _, rfl⟩ := Row.settingsChange?_eq_some hrc
  have hcontained := h.contained r (List.mem_of_find?_eq_some hfirst)
  have hnodup := Bag.nodup_map_fst_params r.attributes f.features
  have heditable : ∀ k ∈ (r.attributes.params f.features).map Prod.fst,
      k ∈ f.features.editable := by
    intro k hk
    rw [Bag.map_fst_params] at hk
    exact (List.mem_filter.1 hk).1
  refine ⟨r, hfirst, hrc, fun k hk => ?_, hnodup, fun k hk => ?_, fun k hk hm => ?_,
    fun s hs hm => ?_, fun ht hm => ?_⟩
  · obtain ⟨hk, v, hv⟩ := hcontained.of_mem_changedKeys hk
    obtain ⟨t, ht, hm⟩ := Bag.mem_params hk hv
    exact ⟨v, t, hv, ht, filter_fst_eq_singleton hnodup hm⟩
  · exact Features.mem_editable.1 (heditable k hk)
  · exact Features.not_mem_provenance_of_mem_editable (heditable k hm) hk
  · rw [Features.attributeName_mem_editable.1 (heditable _ hm)] at hs
    cases hs
  · rcases Features.mem_editable.1 (heditable _ hm) with ⟨s, _, hs⟩ | ⟨h, _⟩
    · exact s.attributeName_ne_tags hs.symm
    · rw [ht] at h
      cases h

theorem twins_sent_of_mem_plan :
    ∃ c ∈ (twins.run twinEdits).plan.settings, c.changedKeys = ["acceleration.max_time"] ∧
      "eai:appName" ∉ c.params.map Prod.fst ∧ (c.params.map Prod.fst).Nodup := by
  have hreach : (twins.run twinEdits).Reachable := (Reachable.load twins_loaded).run _
  let c : SettingsChange := ⟨"Web", ["acceleration.max_time"], [("acceleration", "0"),
    ("acceleration.max_time", "60"), ("acceleration.manual_rebuilds", "0")]⟩
  have hc : c ∈ (twins.run twinEdits).plan.settings := by decide +kernel
  obtain ⟨_, _, _, _, hnodup, _, hprovenance, _⟩ := sent_of_mem_plan hreach hc
  exact ⟨c, hc, rfl, hprovenance _ (by decide), hnodup⟩

end Form

end AccelForm
