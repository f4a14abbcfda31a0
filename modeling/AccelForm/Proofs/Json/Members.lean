import AccelForm.Json.Record
import Mathlib.Data.List.Perm.Basic
/-
  Members of objects

  The members of an object are read one by one, and its fields are looked up
  by name. Where no key occurs twice the fields are the members with a name
  that is asked for (`ofObject?_eq_some`), and the order of the members does
  not matter to them (`lookup_named_perm`).
-/

namespace AccelForm

namespace Json

/-! ## Members one by one -/

theorem mapM_eq_some_iff {α β : Type} {f : α → Option β} {l : List α} {ys : List β} :
    l.mapM f = some ys ↔ List.Forall₂ (fun x y => f x = some y) l ys := by
  induction l generalizing ys with
  | nil => simp [eq_comm]
  | cons x rest ih =>
    rw [List.mapM_cons, List.forall₂_cons_left_iff]
    simp only [Option.bind_eq_bind, Option.bind_eq_some_iff, Option.pure_def, Option.some.injEq, ih]
    constructor
    · rintro ⟨y, hy, zs, hzs, rfl⟩
      exact ⟨y, zs, hy, hzs, rfl⟩
    · rintro ⟨y, zs, hy, hzs, rfl⟩
      exact ⟨y, hy, zs, hzs, rfl⟩

namespace Document

def keys (ms : List (Option String × Document)) : List String := ms.filterMap Prod.fst

/-- Whether two documents are the same, or objects of the same members in any order. -/
inductive Permuted : Document → Document → Prop where
  | refl (d : Document) : Permuted d d
  | object {ms ms' : List (Option String × Document)} (h : ms.Perm ms') :
      Permuted (.object ms) (.object ms')

theorem Permuted.symm {d d' : Document} (h : d.Permuted d') : d'.Permuted d := by
  cases h with
  | refl => exact .refl d
  | object hperm => exact .object hperm.symm

end Document

open Document

variable {ms ms' : List (Option String × Document)}

/-- A member is read as an entry under its key. -/
def ReadAs {α : Type} (r : Reader α) (room : Nat) (m : Option String × Document)
    (e : String × α) : Prop := m.1 = some e.1 ∧ r room m.2 = some e.2

/-- Members are read as entries one by one. -/
theorem members_eq_some_iff {α : Type} {r : Reader α} {room : Nat} {es : List (String × α)} :
    Reader.members r room (.object ms) = some es ↔
      1 < room ∧ List.Forall₂ (ReadAs r (room - 1)) ms es := by
  have hmember : ∀ (m : Option String × Document) (e : String × α),
      (m.1.bind fun k => (r (room - 1) m.2).map (k, ·)) = some e ↔ ReadAs r (room - 1) m e := by
    rintro ⟨key, d⟩ ⟨k, a⟩
    unfold ReadAs
    cases key <;> cases r (room - 1) d <;> simp
  show (if room ≤ 1 then none else ms.mapM _) = some es ↔ _
  by_cases hroom : room ≤ 1
  · simp [hroom, Nat.not_lt.2 hroom]
  · rw [if_neg hroom, mapM_eq_some_iff, and_iff_right (Nat.not_le.1 hroom)]
    simp only [hmember]

section Entries
variable {α : Type} {r : Reader α} {room : Nat} {es : List (String × α)}
  (h : List.Forall₂ (ReadAs r room) ms es)

include h

theorem map_fst_eq_keys : es.map Prod.fst = keys ms := by
  induction h with
  | nil => rfl
  | cons hm _ ih => rw [List.map_cons, ih, keys, keys, List.filterMap_cons_some hm.1]

theorem fst_ne_none_of_mem {m : Option String × Document} (hm : m ∈ ms) : m.1 ≠ none := by
  induction h with
  | nil => cases hm
  | cons hfirst _ ih =>
    rcases List.mem_cons.1 hm with rfl | hm
    · rw [hfirst.1]
      exact Option.some_ne_none _
    · exact ih hm

end Entries

namespace Fields

def named (names : List String) (ms : List (Option String × Document)) : List (String × Document) :=
  ms.filterMap fun m => m.1.bind fun k => if names.contains k then some (k, m.2) else none

variable {names : List String}

/-- Members with different keys are found if their names are asked for. -/
theorem ofMembers?_eq_some (hkeys : (keys ms).Nodup) (hread : ∀ m ∈ ms, m.1 ≠ none)
    {found : List (String × Document)} (hfound : ∀ k ∈ keys ms, found.lookup k = none) :
    ofMembers? names ms found = some (found.reverse ++ named names ms) := by
  induction ms generalizing found with
  | nil => simp [ofMembers?, named]
  | cons m rest ih =>
    obtain ⟨_ | k, d⟩ := m
    · exact absurd rfl (hread _ (List.mem_cons_self ..))
    · have hk : keys ((some k, d) :: rest) = k :: keys rest := rfl
      rw [hk, List.nodup_cons] at hkeys
      rw [hk, List.forall_mem_cons] at hfound
      -- a name that is found here cannot be found again, because the keys differ
      have hrest : ∀ m ∈ rest, m.1 ≠ none := fun m hm => hread m (List.mem_cons_of_mem _ hm)
      rw [ofMembers?, hfound.1]
      by_cases hname : names.contains k
      · have hnamed : named names ((some k, d) :: rest) = (k, d) :: named names rest :=
          List.filterMap_cons_some (if_pos hname)
        have hlater : ∀ l ∈ keys rest, ((k, d) :: found).lookup l = none := by
          intro l hl
          have hne : l ≠ k := fun h => hkeys.1 (h ▸ hl)
          rw [List.lookup_cons, beq_eq_false_iff_ne.2 hne]
          exact hfound.2 l hl
        rw [if_pos hname, if_neg (by simp), ih hkeys.2 hrest hlater, hnamed, List.reverse_cons,
          List.append_assoc]
        rfl
      · have hnamed : named names ((some k, d) :: rest) = named names rest :=
          List.filterMap_cons_none (if_neg hname)
        rw [if_neg hname, ih hkeys.2 hrest hfound.2, hnamed]

theorem named_sublist (names : List String) (ms : List (Option String × Document)) :
    ((named names ms).map Prod.fst).Sublist (keys ms) := by
  induction ms with
  | nil => exact .slnil
  | cons m rest ih =>
    obtain ⟨_ | k, d⟩ := m
    · exact ih
    · by_cases hname : names.contains k
      · have hnamed : named names ((some k, d) :: rest) = (k, d) :: named names rest :=
          List.filterMap_cons_some (if_pos hname)
        rw [hnamed]
        exact ih.cons_cons k
      · have hnamed : named names ((some k, d) :: rest) = named names rest :=
          List.filterMap_cons_none (if_neg hname)
        rw [hnamed]
        exact ih.cons k

/-- The fields that an object with different keys has. -/
theorem ofObject?_eq_some {room : Nat} (hroom : 1 < room) (hkeys : (keys ms).Nodup)
    (hread : ∀ m ∈ ms, m.1 ≠ none) :
    ofObject? names room (.object ms) = some ⟨room - 1, named names ms⟩ := by
  rw [ofObject?, if_neg (Nat.not_le.2 hroom), ofMembers?_eq_some hkeys hread fun _ _ => rfl]
  rfl

theorem lookup_eq_some_iff_mem {l : List (String × Document)} (h : (l.map Prod.fst).Nodup)
    {k : String} {d : Document} : l.lookup k = some d ↔ (k, d) ∈ l := by
  constructor
  · intro hlookup
    obtain ⟨before, after, rfl, _⟩ := List.lookup_eq_some_iff.1 hlookup
    simp
  · intro hmem
    obtain ⟨before, after, rfl⟩ := List.append_of_mem hmem
    refine List.lookup_eq_some_iff.2 ⟨before, after, rfl, fun p hp => bne_iff_ne.2 fun hk => ?_⟩
    rw [List.map_append, List.nodup_append] at h
    exact h.2.2 p.1 (List.mem_map_of_mem hp) k (by simp) hk.symm

theorem lookup_named_perm (hkeys : (keys ms).Nodup) (hperm : ms.Perm ms') (k : String) :
    (named names ms).lookup k = (named names ms').lookup k := by
  have hkeys' : (keys ms').Nodup := (hperm.filterMap _).nodup hkeys
  apply Option.ext
  intro d
  rw [lookup_eq_some_iff_mem (hkeys.sublist (named_sublist names ms)),
    lookup_eq_some_iff_mem (hkeys'.sublist (named_sublist names ms'))]
  exact (hperm.filterMap _).mem_iff

end Fields

end Json

end AccelForm
