import AccelForm.Proofs.Form.Selection
import Mathlib.Data.List.Basic
/-
  Names for completion

  The form offers every index and every tag once. One pass that remembers which
  names it has met (`unseen`) finds the same names: what is left out is what
  was met before. The names that are left are those at the places of first
  occurrences, in order (`uniqueNames_exact`), and no operation on the form
  changes them (`completions_run`).
-/

namespace AccelForm

/-- The names that are met for the first time; `seen` are those that were met before. -/
def unseen (seen : List String) : List String → List String
  | [] => []
  | name :: rest =>
    if name ∈ seen then unseen seen rest else name :: unseen (name :: seen) rest

/-- The pass leaves out what was met before it, and otherwise every later occurrence. -/
theorem unseen_eq (seen names : List String) :
    unseen seen names = (uniqueNames names).filter (· ∉ seen) := by
  induction names generalizing seen with
  | nil => rfl
  | cons name rest ih =>
    rw [unseen, uniqueNames]
    split
    · next hseen =>
      rw [ih, List.filter_cons_of_neg (by simpa using hseen), List.filter_filter]
      apply List.filter_congr
      intro other _
      have hother : other ∉ seen → other ≠ name := fun hnew heq => hnew (heq ▸ hseen)
      simpa using hother
    · next hnew =>
      rw [ih, List.filter_cons_of_pos (by simpa using hnew), List.filter_filter]
      congr 1
      apply List.filter_congr
      intro other _
      simp [Bool.and_comm]

theorem mem_uniqueNames {name : String} {names : List String} :
    name ∈ uniqueNames names ↔ name ∈ names := by
  induction names with
  | nil => rfl
  | cons first rest ih =>
    by_cases h : name = first
    · simp [uniqueNames, h]
    · simp [uniqueNames, h, ih]

theorem nodup_uniqueNames (names : List String) : (uniqueNames names).Nodup := by
  induction names with
  | nil => exact List.nodup_nil
  | cons name rest ih =>
    rw [uniqueNames, List.nodup_cons]
    constructor
    · simp
    · exact ih.filter _

theorem uniqueNames_sublist (names : List String) : (uniqueNames names).Sublist names := by
  induction names with
  | nil => exact List.Sublist.refl _
  | cons name rest ih =>
    apply List.Sublist.cons_cons
    exact List.filter_sublist.trans ih

/-- The names that are left are those at the places of first occurrences. -/
theorem exists_firstPlaces (names : List String) : ∃ places : List (Fin names.length),
    places.Pairwise (· < ·) ∧ (∀ i, i ∈ places ↔ names.get i ∉ names.take i) ∧
      uniqueNames names = places.map names.get := by
  induction names with
  | nil => exact ⟨[], List.Pairwise.nil, fun i => i.elim0, rfl⟩
  | cons name rest ih =>
    obtain ⟨places, hordered, hmem, hnames⟩ := ih
    -- the first place, and of the others those of different names
    refine ⟨0 :: (places.filter (rest.get · ≠ name)).map Fin.succ, ?_, ?_, ?_⟩
    · rw [List.pairwise_cons, List.pairwise_map]
      constructor
      · intro i hi
        obtain ⟨j, _, rfl⟩ := List.mem_map.1 hi
        exact Fin.succ_pos j
      · have hkept := hordered.filter (rest.get · ≠ name)
        exact hkept.imp Fin.succ_lt_succ_iff.2
    · intro i
      induction i using Fin.cases with
      | zero => simp
      | succ j =>
        have hj := hmem j
        simp only [List.get_eq_getElem] at hj
        simp [Fin.succ_ne_zero, hj, and_comm]
    · have hrest : (uniqueNames rest).filter (· ≠ name) =
          (places.filter (rest.get · ≠ name)).map rest.get := by
        rw [hnames, List.filter_map]
        rfl
      rw [uniqueNames, hrest, List.map_cons, List.map_map]
      rfl

/-- Names without repetitions are names of the list in their order, none of them twice and none left
out, each at the place where it occurs first; one pass that remembers the names that it has met
finds them. -/
theorem uniqueNames_exact (names : List String) :
    (uniqueNames names).Sublist names ∧ (uniqueNames names).Nodup ∧
    (∀ name, name ∈ uniqueNames names ↔ name ∈ names) ∧
    (∃ places : List (Fin names.length), places.Pairwise (· < ·) ∧
      (∀ i, i ∈ places ↔ names.get i ∉ names.take i) ∧
      uniqueNames names = places.map names.get) ∧
    uniqueNames names = unseen [] names := by
  refine ⟨uniqueNames_sublist names, nodup_uniqueNames names, fun _ => mem_uniqueNames,
    exists_firstPlaces names, ?_⟩
  rw [unseen_eq]
  simp

namespace Form

/-- However a form is edited, saved or discarded, it offers every index and every tag of the server
that it was opened for, and none of them twice. -/
theorem completions_run (version : Except Rest.Fault String) (displayLimit : Nat) (assets : Assets)
    (ops : List Operation) :
    let f := (ofAssets (releaseOf version) displayLimit assets).run ops
    (f.indexNames.Nodup ∧ ∀ name, name ∈ f.indexNames ↔ ∃ x ∈ assets.indexes, x.name = name) ∧
    (f.tagNames.Nodup ∧ ∀ name, name ∈ f.tagNames ↔ ∃ x ∈ assets.tags, x.name = name) := by
  intro f
  have hloaded : (ofAssets (releaseOf version) displayLimit assets).Loaded :=
    loaded_ofAssets version displayLimit assets
  have hretains := Retains.run (.load hloaded) ops
  have hindexes : f.indexNames = uniqueNames (assets.indexes.map (·.name)) := hretains.indexNames
  have htags : f.tagNames = uniqueNames (assets.tags.map (·.name)) := hretains.tagNames
  rw [hindexes, htags]
  refine ⟨⟨nodup_uniqueNames _, ?_⟩, nodup_uniqueNames _, ?_⟩
  · intro name
    rw [mem_uniqueNames, List.mem_map]
  · intro name
    rw [mem_uniqueNames, List.mem_map]

end Form

end AccelForm
