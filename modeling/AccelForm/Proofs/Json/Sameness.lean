import AccelForm.Json.Entries
/-
  Values that are the same

  Sameness is equality of normal forms. A normal form keeps what every name of
  an object stands for (`findEntry_normalMembers`), although its members may
  stand in another order. Only the order of members and the sign of a zero are
  lost in it, so a value that can have neither is told apart from every other
  one (`eq_of_normal_eq`).
-/

namespace AccelForm.Json

/-- Whether a value is null, a boolean, a whole number or a text. -/
def isPlain : Json → Bool
  | .null | .bool _ | .number (.int _) | .string _ => true
  | _ => false

/-- A plain value is the same only as itself. -/
theorem eq_of_normal_eq {v w : Json} (hv : v.isPlain = true) (h : v.normal = w.normal) :
    v = w := by
  cases v with
  | array items => cases hv
  | object members => cases hv
  | number n =>
    cases n with
    | real x => cases hv
    | int i =>
      cases w with
      | number m => cases m <;> simp [normal, normalNumber] at h ⊢; exact h
      | _ => simp [normal] at h
  | _ => cases w <;> simp [normal] at h ⊢ <;> exact h

/-! ## Members of a normal form -/

theorem findEntry_insertSorted (key k : String) (value : Json) (ms : List (String × Json)) :
    findEntry k (insertSorted key value ms) = if k = key then some value else findEntry k ms := by
  induction ms with
  | nil => simp [insertSorted, findEntry, eq_comm]
  | cons m rest ih =>
    obtain ⟨l, v⟩ := m
    unfold insertSorted
    by_cases hl : key = l
    · subst hl
      by_cases hk : k = key
      · simp [findEntry, hk]
      · simp [findEntry, hk, Ne.symm hk]
    · rw [if_neg hl]
      split
      · by_cases hk : k = key
        · simp [findEntry, hk]
        · rw [findEntry, if_neg (Ne.symm hk), if_neg hk]
      · rw [findEntry, findEntry, ih]
        by_cases hk : k = key
        · subst hk
          simp [Ne.symm hl]
        · simp [hk]

theorem findEntry_normalMembers (k : String) (ms : List (String × Json)) :
    findEntry k (normalMembers ms) = (findEntry k ms).map normal := by
  induction ms with
  | nil => rfl
  | cons m rest ih =>
    obtain ⟨l, v⟩ := m
    rw [normalMembers, findEntry_insertSorted, ih, findEntry]
    by_cases hk : k = l
    · simp [hk]
    · simp [hk, Ne.symm hk]

end AccelForm.Json
