import AccelForm.Acceleration.Change
import AccelForm.Acceleration.Problem
import AccelForm.Form.Row
/-
  Attributes by name

  What each operation on a bag does to the value of every name. Dropping an
  entry moves another one, so the entries that are left are those of other
  names only up to order; because names do not repeat, a look-up does not see
  the order (`get?_erase`). From there on every statement about bags is one
  about `get?`: respelling a switch (`get?_respell`), putting attributes back
  to a baseline (`get?_revert`) and the form in which bags are compared
  (`get?_comparable`).
-/

namespace AccelForm

/-! ## Entries -/

theorem findEntry_eq_none_iff {key : String} {es : List (String × Json)} :
    findEntry key es = none ↔ key ∉ es.map Prod.fst := by
  induction es with
  | nil => simp [findEntry]
  | cons e rest ih =>
    unfold findEntry
    by_cases h : e.1 = key
    · simp [h]
    · rw [if_neg h, ih, List.map_cons, List.mem_cons, not_or]
      exact ⟨fun hr => ⟨Ne.symm h, hr⟩, And.right⟩

/-- Where names do not repeat, looking one up is membership. -/
theorem findEntry_eq_some_iff {key : String} {v : Json} {es : List (String × Json)}
    (h : (es.map Prod.fst).Nodup) : findEntry key es = some v ↔ (key, v) ∈ es := by
  induction es with
  | nil => simp [findEntry]
  | cons e rest ih =>
    obtain ⟨k, w⟩ := e
    rw [List.map_cons, List.nodup_cons] at h
    rw [findEntry, List.mem_cons, Prod.mk.injEq]
    by_cases hk : k = key
    · subst hk
      have hr : (k, v) ∉ rest := fun hm => h.1 (List.mem_map.2 ⟨(k, v), hm, rfl⟩)
      simp [hr, eq_comm]
    · simp [hk, Ne.symm hk, ih h.2]

/-- Where names do not repeat, an entry is the only one of its name. -/
theorem filter_fst_eq_singleton {β : Type} {es : List (String × β)} (h : (es.map Prod.fst).Nodup)
    {k : String} {v : β} (hm : (k, v) ∈ es) : es.filter (·.1 = k) = [(k, v)] := by
  induction es with
  | nil => cases hm
  | cons e rest ih =>
    rw [List.map_cons, List.nodup_cons] at h
    rcases List.mem_cons.1 hm with rfl | hm
    · have hrest : rest.filter (·.1 = k) = [] := by
        rw [List.filter_eq_nil_iff]
        intro x hx hxk
        exact h.1 (List.mem_map.2 ⟨x, hx, of_decide_eq_true hxk⟩)
      rw [List.filter_cons_of_pos (by simp), hrest]
    · have hne : e.1 ≠ k := fun hek => h.1 (hek ▸ List.mem_map_of_mem hm)
      rw [List.filter_cons_of_neg (by simpa using hne)]
      exact ih h.2 hm

/-- What is left after an entry is dropped, up to order. -/
theorem dropEntry_perm (key : String) {es : List (String × Json)} (h : (es.map Prod.fst).Nodup) :
    (dropEntry key es).Perm (es.filter (·.1 ≠ key)) := by
  induction es with
  | nil => simp [dropEntry]
  | cons e rest ih =>
    rw [List.map_cons, List.nodup_cons] at h
    unfold dropEntry
    by_cases he : e.1 = key
    · subst he
      have hrest : rest.filter (·.1 ≠ e.1) = rest := by
        rw [List.filter_eq_self]
        intro x hx
        have hne : x.1 ≠ e.1 := fun hxe => h.1 (hxe ▸ List.mem_map_of_mem hx)
        simpa using hne
      rw [if_pos rfl, List.filter_cons_of_neg (by simp), hrest]
      cases hl : rest.getLast? with
      | none => rw [List.getLast?_eq_none_iff.1 hl]
      | some last => exact getLast_cons_dropLast_perm hl
    · rw [if_neg he, List.filter_cons_of_pos (by simpa using he)]
      exact (ih h.2).cons e

theorem findEntry_dropEntry (key k : String) {es : List (String × Json)}
    (h : (es.map Prod.fst).Nodup) :
    findEntry k (dropEntry key es) = if k = key then none else findEntry k es := by
  have hd := nodup_keys_dropEntry key h
  have hmem : ∀ v, (k, v) ∈ dropEntry key es ↔ (k, v) ∈ es ∧ k ≠ key := by
    intro v
    rw [(dropEntry_perm key h).mem_iff, List.mem_filter]
    simp
  apply Option.ext
  intro v
  rw [findEntry_eq_some_iff hd, hmem]
  by_cases hk : k = key
  · simp [hk]
  · simp [hk, findEntry_eq_some_iff h]

namespace Bag

/-! ## Reading a bag -/

theorem get?_eq_some_iff {b : Bag} {k : String} {v : Json} :
    b.get? k = some v ↔ (k, v) ∈ b.entries := findEntry_eq_some_iff b.nodup

theorem mem_keys_iff {b : Bag} {k : String} : k ∈ b.keys ↔ b.contains k = true := by
  rw [contains, Option.isSome_iff_ne_none, get?, Ne, findEntry_eq_none_iff, Classical.not_not, keys]

theorem get?_erase (b : Bag) (key k : String) :
    (b.erase key).get? k = if k = key then none else b.get? k :=
  findEntry_dropEntry key k b.nodup

/-- A switch value in the spelling that is compared. -/
def respelled (v : Json) : Json :=
  match flag? v with
  | some on => flagValue on
  | none => v

theorem get?_respell (b : Bag) (s : Setting) (k : String) :
    (b.respell s).get? k =
      if k = s.attributeName then (b.get? k).map respelled else b.get? k := by
  unfold respell
  by_cases hk : k = s.attributeName
  · subst hk
    rw [if_pos rfl]
    cases hv : b.get? s.attributeName with
    | none => simp [hv]
    | some v =>
      cases hf : flag? v with
      | none => simp [hv, hf, respelled]
      | some on => simp [hf, get?_insert, respelled]
  · rw [if_neg hk]
    split
    · rw [get?_insert, if_neg hk]
    · rfl

def respelledNames : List String := respelledSettings.map Setting.attributeName

theorem get?_comparable (b : Bag) (k : String) :
    b.comparable.get? k =
      if k ∈ provenanceAttributes then none
      else if k ∈ respelledNames then (b.get? k).map respelled
      else b.get? k := by
  simp only [comparable, respelledSettings, provenanceAttributes, List.foldl_cons, List.foldl_nil,
    get?_respell, get?_erase, respelledNames, List.map_cons, List.map_nil, List.mem_cons,
    List.not_mem_nil, or_false]
  by_cases hm : k = Setting.manualRebuilds.attributeName
  · subst hm; simp [Setting.attributeName]
  · by_cases he : k = Setting.enabled.attributeName
    · subst he; simp [Setting.attributeName]
    · simp only [hm, he, if_false, or_self]
      by_cases h1 : k = "eai:appName" <;> by_cases h2 : k = "eai:userName" <;> simp [h1, h2]

/-! ## Putting attributes back -/

theorem get?_revert (b baseline : Bag) (key k : String) :
    (b.revert baseline key).get? k = if k = key then baseline.get? k else b.get? k := by
  unfold revert
  by_cases hk : k = key
  · subst hk
    cases hb : baseline.get? k with
    | none => simp [get?_erase]
    | some v => simp [get?_insert]
  · rw [if_neg hk]
    split
    · rw [get?_insert, if_neg hk]
    · rw [get?_erase, if_neg hk]

end Bag

namespace Row

/-- The settings that have problems are as in the baseline, all else is as it was. -/
theorem get?_revert (r : Row) (problems : List Problem) (k : String) :
    (r.revert problems).attributes.get? k =
      if k ∈ problems.map (·.setting.attributeName) then r.baseline.get? k
      else r.attributes.get? k := by
  show (problems.foldl (fun b p => b.revert r.baseline p.setting.attributeName)
    r.attributes).get? k = _
  generalize r.attributes = b
  induction problems generalizing b with
  | nil => simp
  | cons p rest ih =>
    rw [List.foldl_cons, ih, Bag.get?_revert, List.map_cons]
    by_cases hr : k ∈ rest.map (·.setting.attributeName)
    · simp [hr]
    · by_cases hp : k = p.setting.attributeName <;> simp [hr, hp]

@[simp] theorem revert_baseline (r : Row) (ps : List Problem) :
    (r.revert ps).baseline = r.baseline := rfl

end Row

end AccelForm
