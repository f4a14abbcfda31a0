import AccelForm.Json.Value
import Mathlib.Data.List.Nodup
import Mathlib.Data.String.Basic
/-
  Entries in the order of their keys

  The members of a normal form, and the edits of a file, are put in the order of
  their keys one by one, an entry over one of the same key. Two entries with
  different keys can be put in either one first (`insertKeyed_comm`). So where
  no key occurs twice, the order in which entries come is lost.
-/

namespace AccelForm

/-- Puts an entry among entries in the order of their keys, over one with the same key. -/
def insertKeyed {α : Type} (e : String × α) : List (String × α) → List (String × α)
  | [] => [e]
  | f :: rest =>
    if e.1 = f.1 then e :: rest
    else if e.1 < f.1 then e :: f :: rest
    else f :: insertKeyed e rest

section Keyed
variable {α : Type} {a b f : String × α} {es es' rest : List (String × α)}

theorem insertKeyed_over (h : a.1 = f.1) : insertKeyed a (f :: rest) = a :: rest := if_pos h

theorem insertKeyed_before (h : a.1 < f.1) : insertKeyed a (f :: rest) = a :: f :: rest := by
  rw [insertKeyed, if_neg (ne_of_lt h), if_pos h]

theorem insertKeyed_behind (h : f.1 < a.1) :
    insertKeyed a (f :: rest) = f :: insertKeyed a rest := by
  rw [insertKeyed, if_neg (ne_of_gt h), if_neg (lt_asymm h)]

/-- Of two entries with different keys either one can be put in first. -/
theorem insertKeyed_comm_of_lt (h : a.1 < b.1) (es : List (String × α)) :
    insertKeyed a (insertKeyed b es) = insertKeyed b (insertKeyed a es) := by
  -- both go past every entry whose key is less than theirs; the first other entry decides
  induction es with
  | nil =>
    show insertKeyed a [b] = insertKeyed b [a]
    rw [insertKeyed_before h, insertKeyed_behind h]
    rfl
  | cons f rest ih =>
    rcases lt_trichotomy b.1 f.1 with hb | hb | hb
    · rw [insertKeyed_before hb, insertKeyed_before h, insertKeyed_before (h.trans hb),
        insertKeyed_behind h, insertKeyed_before hb]
    · have ha : a.1 < f.1 := hb ▸ h
      rw [insertKeyed_over hb, insertKeyed_before h, insertKeyed_before ha, insertKeyed_behind h,
        insertKeyed_over hb]
    · rw [insertKeyed_behind hb]
      rcases lt_trichotomy a.1 f.1 with ha | ha | ha
      · rw [insertKeyed_before ha, insertKeyed_before ha, insertKeyed_behind h,
          insertKeyed_behind hb]
      · rw [insertKeyed_over ha, insertKeyed_over ha, insertKeyed_behind h]
      · rw [insertKeyed_behind ha, insertKeyed_behind ha, insertKeyed_behind hb, ih]

theorem insertKeyed_comm (h : a.1 ≠ b.1) (es : List (String × α)) :
    insertKeyed a (insertKeyed b es) = insertKeyed b (insertKeyed a es) := by
  rcases lt_or_gt_of_ne h with h | h
  · exact insertKeyed_comm_of_lt h es
  · exact (insertKeyed_comm_of_lt h es).symm

/-- Where no key occurs twice, entries are equal or have different keys. -/
theorem eq_or_fst_ne (h : (es.map Prod.fst).Nodup) (ha : a ∈ es) (hb : b ∈ es) :
    a = b ∨ a.1 ≠ b.1 := by
  by_cases hkey : a.1 = b.1
  · exact .inl (List.inj_on_of_nodup_map h ha hb hkey)
  · exact .inr hkey

/-- Entries without a repeated key are put in order alike in whatever order they come. -/
theorem foldr_insertKeyed_perm (h : (es.map Prod.fst).Nodup) (hperm : es.Perm es') :
    es.foldr insertKeyed [] = es'.foldr insertKeyed [] :=
  hperm.foldr_eq' (fun a ha b hb _ => by
    rcases eq_or_fst_ne h ha hb with rfl | hne
    · rfl
    · exact insertKeyed_comm (Ne.symm hne) _) []

end Keyed

namespace Json

theorem insertSorted_eq (key : String) (value : Json) (ms : List (String × Json)) :
    insertSorted key value ms = insertKeyed (key, value) ms := by
  induction ms with
  | nil => rfl
  | cons m rest ih => rw [insertSorted, insertKeyed, ih]

theorem normalMembers_eq (ms : List (String × Json)) :
    normalMembers ms = (ms.map fun m => (m.1, m.2.normal)).foldr insertKeyed [] := by
  induction ms with
  | nil => rfl
  | cons m rest ih => rw [normalMembers, insertSorted_eq, ih, List.map_cons, List.foldr_cons]

/-- An object without a repeated key has the same normal form in whatever order its members come. -/
theorem normalMembers_perm {ms ms' : List (String × Json)} (h : (ms.map Prod.fst).Nodup)
    (hperm : ms.Perm ms') : normalMembers ms = normalMembers ms' := by
  rw [normalMembers_eq, normalMembers_eq]
  refine foldr_insertKeyed_perm ?_ (hperm.map _)
  rwa [List.map_map]

end Json

end AccelForm
