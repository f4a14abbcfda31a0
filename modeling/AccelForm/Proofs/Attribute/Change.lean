import AccelForm.Proofs.Attribute.Lookup
/-
  What is changed and what is sent

  `changedKeys` looks at all names that two bags give a value, `params` only at
  the names that a server offers for editing. Both are described here by the
  value of each name: a name is listed as changed only if the bags differ
  there (`get?_ne_of_mem_changedKeys`), and the parameters hold every offered
  name that the bag has, once, with the text of its value (`mem_params`).
-/

namespace AccelForm

theorem Setting.attributeName_inj {s t : Setting} : s.attributeName = t.attributeName ↔ s = t := by
  constructor
  · cases s <;> cases t <;> simp [attributeName]
  · rintro rfl; rfl

theorem Setting.attributeName_ne_tags (s : Setting) : s.attributeName ≠ tagsAttribute := by
  cases s <;> simp [attributeName, tagsAttribute]

theorem Setting.attributeName_not_mem_provenance (s : Setting) :
    s.attributeName ∉ provenanceAttributes := by
  cases s <;> simp [attributeName, provenanceAttributes]

namespace Features

/-- The names of the attributes that can be edited. -/
def editable (f : Features) : List String :=
  f.settings.map Setting.attributeName ++ if f.tagsWhitelist then [tagsAttribute] else []

theorem mem_settings {f : Features} {s : Setting} : s ∈ f.settings ↔ f.allows s = true := by
  simp [settings, Setting.mem_all]

theorem mem_editable {f : Features} {k : String} :
    k ∈ f.editable ↔ (∃ s, f.allows s = true ∧ k = s.attributeName) ∨
      (f.tagsWhitelist = true ∧ k = tagsAttribute) := by
  rw [editable, List.mem_append, List.mem_map]
  refine or_congr ⟨?_, ?_⟩ ?_
  · rintro ⟨s, hs, rfl⟩
    exact ⟨s, mem_settings.1 hs, rfl⟩
  · rintro ⟨s, hs, rfl⟩
    exact ⟨s, mem_settings.2 hs, rfl⟩
  · cases f.tagsWhitelist <;> simp

theorem attributeName_mem_editable {f : Features} {s : Setting} :
    s.attributeName ∈ f.editable ↔ f.allows s = true := by
  rw [mem_editable]
  constructor
  · rintro (⟨t, ht, hst⟩ | ⟨_, hst⟩)
    · rwa [Setting.attributeName_inj.1 hst]
    · exact absurd hst s.attributeName_ne_tags
  · exact fun h => .inl ⟨s, h, rfl⟩

theorem nodup_editable (f : Features) : f.editable.Nodup := by
  have hs : (f.settings.map Setting.attributeName).Nodup := by
    have hall : (Setting.all.map Setting.attributeName).Nodup := by decide
    exact hall.sublist (List.filter_sublist.map _)
  rw [editable, List.nodup_append]
  refine ⟨hs, by cases f.tagsWhitelist <;> simp, ?_⟩
  intro a ha b hb hab
  obtain ⟨s, _, rfl⟩ := List.mem_map.1 ha
  have hb : b = tagsAttribute := by
    cases ht : f.tagsWhitelist <;> simp [ht] at hb
    exact hb
  exact s.attributeName_ne_tags (hab.trans hb)

/-- Where an entity came from is never edited. -/
theorem not_mem_provenance_of_mem_editable {f : Features} {k : String} (h : k ∈ f.editable) :
    k ∉ provenanceAttributes := by
  rcases mem_editable.1 h with ⟨s, _, rfl⟩ | ⟨_, rfl⟩
  · exact s.attributeName_not_mem_provenance
  · decide

end Features

namespace Bag

/-! ## Changed names -/

theorem mem_changedKeys {p c : Bag} {k : String} :
    k ∈ p.changedKeys c ↔
      (∃ v, c.comparable.get? k = some v ∧ p.comparable.holds (k, v) = false) ∨
      (p.comparable.contains k = true ∧ c.comparable.contains k = false) := by
  rw [changedKeys, List.mem_append]
  refine or_congr ⟨?_, ?_⟩ ?_
  · intro h
    obtain ⟨e, he, rfl⟩ := List.mem_map.1 h
    obtain ⟨he, hp⟩ := List.mem_filter.1 he
    exact ⟨e.2, get?_eq_some_iff.2 he, by simpa using hp⟩
  · rintro ⟨v, hv, hp⟩
    refine List.mem_map.2 ⟨(k, v), List.mem_filter.2 ⟨get?_eq_some_iff.1 hv, ?_⟩, rfl⟩
    simp [hp]
  · rw [List.mem_filter, mem_keys_iff]
    simp

theorem get?_comparable_congr {a b : Bag} {k : String} (h : a.get? k = b.get? k) :
    a.comparable.get? k = b.comparable.get? k := by
  rw [get?_comparable, get?_comparable, h]

/-- A name is listed as changed only if the bags give it different values. -/
theorem get?_ne_of_mem_changedKeys {p c : Bag} {k : String} (h : k ∈ p.changedKeys c) :
    c.get? k ≠ p.get? k := by
  intro heq
  have hcmp := get?_comparable_congr heq
  rcases mem_changedKeys.1 h with ⟨v, hv, hp⟩ | ⟨hp, hc⟩
  · simp [holds, ← hcmp, hv, Json.same_refl] at hp
  · simp [contains, ← hcmp] at hp hc
    simp [hc] at hp

/-! ## Parameters -/

/-- The text in which the value of a name is sent: 1 or 0 for a switch that can be read, the text
of the value otherwise. -/
def SentAs (k : String) (v : Json) (t : String) : Prop :=
  (∃ s on, k = Setting.attributeName s ∧ s.isSwitch = true ∧ flag? v = some on ∧
    t = if on then "1" else "0") ∨
  ((∀ s, k = Setting.attributeName s → s.isSwitch = true → flag? v = none) ∧
    t = valueText (some v))

theorem sentAs_sentText (s : Setting) (v : Json) : SentAs s.attributeName v (sentText s v) := by
  unfold sentText
  split
  · next on hs hv => exact .inl ⟨s, on, rfl, hs, hv, rfl⟩
  · next hno =>
    refine .inr ⟨?_, rfl⟩
    intro s' hs' hswitch
    rw [Setting.attributeName_inj.1 hs'] at hno
    cases hv : flag? v with
    | none => rfl
    | some on => exact absurd hv (hno on hswitch)

theorem sentAs_tags (v : Json) : SentAs tagsAttribute v (valueText (some v)) :=
  .inr ⟨fun s hs => absurd hs.symm s.attributeName_ne_tags, rfl⟩

/-- The names that are sent: those of the offered ones that the bag has. -/
theorem map_fst_params (b : Bag) (f : Features) :
    (b.params f).map Prod.fst = f.editable.filter b.contains := by
  have hs : ∀ ss : List Setting, (ss.filterMap b.param?).map Prod.fst =
      (ss.map Setting.attributeName).filter b.contains := by
    intro ss
    induction ss with
    | nil => rfl
    | cons s ss ih =>
      rw [List.filterMap_cons, List.map_cons, List.filter_cons, contains, param?]
      cases hv : b.get? s.attributeName with
      | none => simpa using ih
      | some v => simpa using ih
  rw [params, List.map_append, hs, Features.editable, List.filter_append]
  congr 1
  unfold tagsParam?
  cases f.tagsWhitelist with
  | false => rfl
  | true =>
    rw [if_pos rfl, if_pos rfl, List.filter_cons, contains]
    cases hv : b.get? tagsAttribute <;> simp

theorem nodup_map_fst_params (b : Bag) (f : Features) : ((b.params f).map Prod.fst).Nodup := by
  rw [map_fst_params]
  exact f.nodup_editable.filter _

/-- Every offered name that the bag has is sent with the text of its value. -/
theorem mem_params {b : Bag} {f : Features} {k : String} {v : Json} (hk : k ∈ f.editable)
    (hv : b.get? k = some v) : ∃ t, SentAs k v t ∧ (k, t) ∈ b.params f := by
  rcases Features.mem_editable.1 hk with ⟨s, hs, rfl⟩ | ⟨ht, rfl⟩
  · refine ⟨sentText s v, sentAs_sentText s v, List.mem_append_left _ ?_⟩
    exact List.mem_filterMap.2 ⟨s, Features.mem_settings.2 hs, by simp [param?, hv]⟩
  · refine ⟨valueText (some v), sentAs_tags v, List.mem_append_right _ ?_⟩
    simp [tagsParam?, ht, hv]

end Bag

end AccelForm
