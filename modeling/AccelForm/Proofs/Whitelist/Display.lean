import AccelForm.Whitelist
import AccelForm.Proofs.Text.Trim
/-
  Lists with commas in their normal spelling

  An entry is what a list with commas can hold: it is not empty, has no comma
  in it and no blank at its ends. Splitting yields entries only, and joining
  entries and splitting the result gives them back (`split_display`). The names
  that a definition is read to are entries too, as they are made of characters
  that are neither commas nor blanks. So what is shown of a definition and what
  is kept of an input are both in their normal spelling (`tidy_decode`,
  `tidy_tidy`).
-/

namespace AccelForm.Whitelist

/-- What can stand in a list with commas in its normal spelling. -/
structure IsEntry (cs : List Char) : Prop where
  ne_nil : cs ≠ []
  no_comma : ',' ∉ cs
  trimmed : Text.trimChars cs = cs

/-! ## Splitting -/

theorem not_mem_of_mem_splitOn {sep : Char} {cs piece : List Char}
    (h : piece ∈ cs.splitOn sep) : sep ∉ piece := by
  induction cs generalizing piece with
  | nil => simp_all
  | cons c rest ih =>
    rw [List.splitOn_cons_eq_if_modifyHead] at h
    split at h
    · rcases List.mem_cons.1 h with rfl | h
      · simp
      · exact ih h
    · next hc =>
      -- the character goes to the front of the first piece of the rest
      obtain ⟨first, pieces, hpieces⟩ := List.exists_cons_of_ne_nil (List.splitOn_ne_nil sep rest)
      rw [hpieces, List.modifyHead_cons] at h
      rw [hpieces] at ih
      rcases List.mem_cons.1 h with rfl | h
      · have hfirst := ih List.mem_cons_self
        intro hsep
        rcases List.mem_cons.1 hsep with rfl | hsep
        · simp at hc
        · exact hfirst hsep
      · exact ih (List.mem_cons_of_mem _ h)

theorem isEntry_of_mem_split {shown name : String} (h : name ∈ split shown) :
    IsEntry name.toList := by
  obtain ⟨cs, hcs, rfl⟩ := List.mem_map.1 h
  obtain ⟨hcs, hne⟩ := List.mem_filter.1 hcs
  obtain ⟨piece, hpiece, rfl⟩ := List.mem_map.1 hcs
  rw [String.toList_ofList]
  refine ⟨by simpa using hne, ?_, Text.trimChars_trimChars piece⟩
  intro hcomma
  exact not_mem_of_mem_splitOn hpiece ((Text.trimChars_sublist piece).subset hcomma)

/-- Entries that are joined by commas are found again. -/
theorem split_display {names : List String} (h : ∀ name ∈ names, IsEntry name.toList) :
    split (display names) = names := by
  have hpieces : (display names).toList.splitOn ',' =
      if names = [] then [[]] else names.map String.toList := by
    rw [display, String.toList_intercalate]
    split
    · next hnil => simp [hnil]
    · next hne =>
      refine List.splitOn_intercalate ',' ?_ (by simpa using hne)
      intro piece hpiece
      obtain ⟨name, hname, rfl⟩ := List.mem_map.1 hpiece
      exact (h name hname).no_comma
  rw [split, hpieces]
  split
  · next hnil =>
    subst hnil
    rfl
  · have htrim : (names.map String.toList).map Text.trimChars = names.map String.toList := by
      rw [List.map_map]
      exact List.map_congr_left fun name hname => (h name hname).trimmed
    have hkept : (names.map String.toList).filter (!·.isEmpty) = names.map String.toList := by
      rw [List.filter_eq_self]
      intro piece hpiece
      obtain ⟨name, hname, rfl⟩ := List.mem_map.1 hpiece
      simpa using (h name hname).ne_nil
    rw [htrim, hkept, List.map_map]
    simp

theorem split_tidy (shown : String) : split (tidy shown) = split shown :=
  split_display fun _ => isEntry_of_mem_split

theorem tidy_tidy (shown : String) : tidy (tidy shown) = tidy shown := by
  rw [tidy, split_tidy, ← tidy]

/-! ## Names in definitions -/

/-- A name that a definition can hold. -/
structure IsIndexName (cs : List Char) : Prop where
  ne_nil : cs ≠ []
  isNameChar : ∀ c ∈ cs, isNameChar c = true

theorem isBlank_of_isNameChar {c : Char} (h : isNameChar c = true) : Text.isBlank c = false := by
  cases hblank : Text.isBlank c with
  | false => rfl
  | true =>
    rw [isNameChar, Text.isWord_of_isBlank hblank] at h
    obtain rfl | rfl : c = '-' ∨ c = '*' := by simpa using h
    · revert hblank
      decide
    · revert hblank
      decide

theorem IsIndexName.isEntry {cs : List Char} (h : IsIndexName cs) : IsEntry cs := by
  refine ⟨h.ne_nil, ?_, Text.trimChars_eq_self fun c hc => isBlank_of_isNameChar (h.isNameChar c hc)⟩
  intro hcomma
  have hc := h.isNameChar ',' hcomma
  revert hc
  decide

theorem isIndexName_takeWhile {cs : List Char} (h : (cs.takeWhile isNameChar).isEmpty = false) :
    IsIndexName (cs.takeWhile isNameChar) where
  ne_nil := by simpa using h
  isNameChar _ hc := List.mem_takeWhile_imp hc

theorem nameAt?_eq_some {cs name after : List Char} (h : nameAt? cs = some (name, after)) :
    IsIndexName name := by
  simp only [nameAt?] at h
  split at h
  · -- a name between quotes
    split at h
    · split at h
      · split at h
        · cases h
        · next hne =>
          cases h
          exact isIndexName_takeWhile (by simpa using hne)
      · cases h
    · cases h
  · next hne =>
    cases h
    exact isIndexName_takeWhile (by simpa using hne)

theorem termAt?_eq_some {cs name after : List Char} (h : termAt? cs = some (name, after)) :
    IsIndexName name := by
  obtain ⟨rest, _, hrest⟩ := Option.bind_eq_some_iff.1 h
  split at hrest
  · exact nameAt?_eq_some hrest
  · cases hrest

theorem isIndexName_of_mem_namesFrom {skip : Nat} {cs name : List Char}
    (h : name ∈ namesFrom skip cs) : IsIndexName name := by
  fun_induction namesFrom skip cs with
  | case1 => cases h
  | case2 skip c rest ih => exact ih h
  | case3 c rest found after hterm ih =>
    rcases List.mem_cons.1 h with rfl | h
    · exact termAt?_eq_some hterm
    · exact ih h
  | case4 c rest _ ih => exact ih h

theorem isIndexName_of_mem_decodeNames {definition name : String}
    (h : name ∈ decodeNames definition) : IsIndexName name.toList := by
  obtain ⟨cs, hcs, rfl⟩ := List.mem_map.1 h
  rw [String.toList_ofList]
  exact isIndexName_of_mem_namesFrom hcs

/-- The names in a definition are entries, so what is shown of it is in its normal spelling. -/
theorem split_decode (definition : String) : split (decode definition) = decodeNames definition :=
  split_display fun _ hname => (isIndexName_of_mem_decodeNames hname).isEntry

theorem tidy_decode (definition : String) : tidy (decode definition) = decode definition := by
  rw [tidy, split_decode, ← decode]

end AccelForm.Whitelist
