import AccelForm.Proofs.Attribute.Order
import AccelForm.Proofs.Attribute.Unchanged
/-
  Where two bags differ

  Whether bags differ is decided by comparing them as wholes, in what they
  differ by going through the names of both. The two agree: bags are the same
  exactly if they give every name values that are the same (`same_iff_get?`),
  and the names that are listed as changed are those with values that are not
  (`mem_changedKeys_iff_ne`). So the list is exact (`changedKeys_exact`): it is
  empty only for bags that do not differ, it has no name twice, and it depends
  neither on the order of the attributes nor, but for its own order, on which
  bag comes first.
-/

namespace AccelForm

/-! ## Entries that are as they should be -/

theorem setEntry_eq_self {key : String} {v : Json} {es : List (String × Json)}
    (h : findEntry key es = some v) : setEntry key v es = es := by
  induction es with
  | nil => cases h
  | cons e rest ih =>
    unfold findEntry at h
    unfold setEntry
    split
    · next he =>
      rw [if_pos he, Option.some.injEq] at h
      rw [← he, ← h]
    · next he =>
      rw [if_neg he] at h
      rw [ih h]

theorem dropEntry_eq_self {key : String} {es : List (String × Json)}
    (h : findEntry key es = none) : dropEntry key es = es := by
  induction es with
  | nil => rfl
  | cons e rest ih =>
    unfold findEntry at h
    unfold dropEntry
    split
    · next he => simp [he] at h
    · next he =>
      rw [if_neg he] at h
      rw [ih h]

namespace Bag

theorem eq_of_entries {a b : Bag} (h : a.entries = b.entries) : a = b := by
  cases a
  cases b
  cases h
  rfl

theorem insert_eq_self {b : Bag} {key : String} {v : Json} (h : b.get? key = some v) :
    b.insert key v = b := eq_of_entries (setEntry_eq_self h)

theorem erase_eq_self {b : Bag} {key : String} (h : b.get? key = none) : b.erase key = b :=
  eq_of_entries (dropEntry_eq_self h)

/-! ## The form in which bags are compared -/

theorem respelled_respelled (v : Json) : respelled (respelled v) = respelled v := by
  unfold respelled
  cases hv : flag? v with
  | none => simp only [hv]
  | some on => simp only [flag?_flagValue]

theorem respell_eq_self {b : Bag} {s : Setting}
    (h : (b.get? s.attributeName).map respelled = b.get? s.attributeName) : b.respell s = b := by
  unfold respell
  cases hv : b.get? s.attributeName with
  | none => rfl
  | some v =>
    rw [hv, Option.map_some, Option.some.injEq, respelled] at h
    rw [Option.bind_some]
    cases hf : flag? v with
    | none => rfl
    | some on =>
      rw [hf] at h
      exact insert_eq_self (by rw [hv, ← h])

theorem comparable_comparable (b : Bag) : b.comparable.comparable = b.comparable := by
  have hprovenance : ∀ k ∈ provenanceAttributes, b.comparable.get? k = none := by
    intro k hk
    rw [get?_comparable, if_pos hk]
  have hrespelled : ∀ s ∈ respelledSettings, (b.comparable.get? s.attributeName).map respelled =
      b.comparable.get? s.attributeName := by
    intro s hs
    have hname : s.attributeName ∈ respelledNames := List.mem_map_of_mem hs
    rw [get?_comparable, if_neg s.attributeName_not_mem_provenance, if_pos hname, Option.map_map]
    exact congrArg (Option.map · _) (funext respelled_respelled)
  -- each of the four steps finds its work done
  generalize b.comparable = c at hprovenance hrespelled ⊢
  simp only [comparable, provenanceAttributes, respelledSettings, List.foldl_cons, List.foldl_nil]
  rw [erase_eq_self (hprovenance _ (by decide)), erase_eq_self (hprovenance _ (by decide)),
    respell_eq_self (hrespelled _ (by decide)), respell_eq_self (hrespelled _ (by decide))]

/-! ## Bags that are the same -/

theorem findEntry_map_normal (k : String) (es : List (String × Json)) :
    findEntry k (es.map fun e => (e.1, e.2.normal)) = (findEntry k es).map Json.normal := by
  induction es with
  | nil => rfl
  | cons e rest ih =>
    rw [List.map_cons, findEntry, findEntry, ih]
    split <;> rfl

/-- Bags are the same exactly if they give every name the same value, or none. -/
theorem same_iff_get? {a b : Bag} :
    a.same b = true ↔ ∀ k, (a.get? k).map Json.normal = (b.get? k).map Json.normal := by
  refine ⟨normal_get?_of_same, fun h => ?_⟩
  have hnodup : ∀ c : Bag, ((c.entries.map fun e => (e.1, e.2.normal)).map Prod.fst).Nodup := by
    intro c
    rw [List.map_map]
    exact c.nodup
  have hperm : (a.entries.map fun e => (e.1, e.2.normal)).Perm
      (b.entries.map fun e => (e.1, e.2.normal)) := by
    refine perm_of_findEntry_eq (hnodup a) (hnodup b) fun k => ?_
    rw [findEntry_map_normal, findEntry_map_normal]
    exact h k
  rw [same, Json.same_iff, toJson, toJson, Json.normal, Json.normal, Json.normalMembers_eq,
    Json.normalMembers_eq, foldr_insertKeyed_perm (hnodup a) hperm]

/-! ## Names that are listed as changed -/

theorem holds_eq_false_iff {b : Bag} {k : String} {v : Json} :
    b.holds (k, v) = false ↔ (b.get? k).map Json.normal ≠ some v.normal := by
  unfold holds
  cases b.get? k with
  | none => simp
  | some w => simp [Json.same]

/-- A name is listed exactly if the bags, as they are compared, do not give it the same value. -/
theorem mem_changedKeys_iff_ne {a b : Bag} {k : String} : k ∈ a.changedKeys b ↔
    (a.comparable.get? k).map Json.normal ≠ (b.comparable.get? k).map Json.normal := by
  simp only [mem_changedKeys, holds_eq_false_iff, contains]
  cases a.comparable.get? k <;> cases b.comparable.get? k <;> simp

theorem nodup_changedKeys (a b : Bag) : (a.changedKeys b).Nodup := by
  have hcurrent : ((b.comparable.entries.filter (!a.comparable.holds ·)).map Prod.fst).Nodup :=
    b.comparable.nodup.sublist (List.filter_sublist.map _)
  have hprevious : (a.comparable.keys.filter (!b.comparable.contains ·)).Nodup :=
    a.comparable.nodup.filter _
  refine List.nodup_append.2 ⟨hcurrent, hprevious, ?_⟩
  rintro k hk _ hk' rfl
  -- the first part has names of the current bag, the second part names that it has not
  obtain ⟨e, he, rfl⟩ := List.mem_map.1 hk
  have hb : e.1 ∈ b.comparable.keys := List.mem_map_of_mem (List.mem_filter.1 he).1
  have hno := (List.mem_filter.1 hk').2
  rw [mem_keys_iff.1 hb] at hno
  cases hno

theorem differs_iff_ne_nil {a b : Bag} : a.differs b = true ↔ a.changedKeys b ≠ [] := by
  have hdiffers : a.differs b = true ↔
      ∃ k, (a.comparable.get? k).map Json.normal ≠ (b.comparable.get? k).map Json.normal := by
    rw [differs, Bool.not_eq_true', ← Bool.not_eq_true, same_iff_get?, not_forall]
  rw [hdiffers, Ne, List.eq_nil_iff_forall_not_mem, not_forall]
  refine exists_congr fun k => ?_
  rw [Classical.not_not, mem_changedKeys_iff_ne]

/-- How two bags can differ in a name: one of them alone has it, or both have values for it that
are not the same, the two switches being compared by what they say. -/
inductive DiffersAt (a b : Bag) (k : String) : Prop where
  | removed {v : Json} (ha : a.get? k = some v) (hb : b.get? k = none)
  | added {w : Json} (ha : a.get? k = none) (hb : b.get? k = some w)
  | changed {v w : Json} (ha : a.get? k = some v) (hb : b.get? k = some w)
      (hvalues : (compared k v).same (compared k w) = false)

theorem DiffersAt.symm {a b : Bag} {k : String} (h : a.DiffersAt b k) : b.DiffersAt a k := by
  cases h with
  | removed ha hb => exact .added hb ha
  | added ha hb => exact .removed hb ha
  | changed ha hb hvalues => exact .changed hb ha (by simpa [Json.same, eq_comm] using hvalues)

theorem differsAt_iff_ne {a b : Bag} {k : String} : a.DiffersAt b k ↔
    (a.get? k).map (fun v => (compared k v).normal) ≠
      (b.get? k).map fun v => (compared k v).normal := by
  constructor
  · rintro (⟨ha, hb⟩ | ⟨ha, hb⟩ | ⟨ha, hb, hvalues⟩)
    · simp [ha, hb]
    · simp [ha, hb]
    · simpa [ha, hb, Json.same] using hvalues
  · intro hne
    cases ha : a.get? k with
    | none =>
      cases hb : b.get? k with
      | none => simp [ha, hb] at hne
      | some w => exact .added ha hb
    | some v =>
      cases hb : b.get? k with
      | none => exact .removed ha hb
      | some w => exact .changed ha hb (by simpa [ha, hb, Json.same] using hne)

theorem mem_changedKeys_iff_differsAt {a b : Bag} {k : String} :
    k ∈ a.changedKeys b ↔ k ∉ provenanceAttributes ∧ a.DiffersAt b k := by
  rw [mem_changedKeys_iff_ne]
  by_cases hk : k ∈ provenanceAttributes
  · simp [get?_comparable, hk]
  · rw [get?_comparable_of_not_mem hk, get?_comparable_of_not_mem hk, Option.map_map,
      Option.map_map, differsAt_iff_ne]
    exact (and_iff_right hk).symm

/-- Bags differ exactly if a name is listed as changed. The list has no name twice and holds just
those in which the bags differ, what says where an entity came from apart, whichever bag comes
first; and a bag in the form in which it is compared stays as it is when it is compared again. -/
theorem changedKeys_exact (a b : Bag) :
    (a.differs b = true ↔ a.changedKeys b ≠ []) ∧
      (a.changedKeys b).Nodup ∧
      (∀ k, k ∈ a.changedKeys b ↔ k ∉ provenanceAttributes ∧ a.DiffersAt b k) ∧
      (∀ k, k ∈ a.changedKeys b ↔ k ∈ b.changedKeys a) ∧
      a.comparable.comparable = a.comparable := by
  refine ⟨differs_iff_ne_nil, nodup_changedKeys a b, fun k => mem_changedKeys_iff_differsAt,
    fun k => ?_, comparable_comparable a⟩
  rw [mem_changedKeys_iff_differsAt, mem_changedKeys_iff_differsAt]
  exact and_congr_right fun _ => ⟨DiffersAt.symm, DiffersAt.symm⟩

/-- The names of the current bag come first, in its order. -/
example :
    (ofList [("eai:appName", .string "cim"), ("acceleration", .string "Yes"),
      ("tags_whitelist", .string "web"), ("acceleration.max_time", .number (.int 1))]).changedKeys
    (ofList [("acceleration.max_time", .string "1"), ("acceleration", .bool true),
      ("description", .null)]) = ["acceleration.max_time", "description", "tags_whitelist"] := by
  decide +kernel

end Bag

end AccelForm
