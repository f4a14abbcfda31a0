import AccelForm.Json.Value
/-
  Named entries in order

  A list of entries under names, as a JSON object spells it. Setting an entry
  keeps its place, or puts a new one at the end. Dropping one moves the last
  entry into the hole. Neither makes a name occur twice.
-/

namespace AccelForm

/-- The value of the first entry with the given name. -/
def findEntry (key : String) : List (String × Json) → Option Json
  | [] => none
  | e :: rest => if e.1 = key then some e.2 else findEntry key rest

/-- Sets an entry at its place, or at the end. -/
def setEntry (key : String) (value : Json) : List (String × Json) → List (String × Json)
  | [] => [(key, value)]
  | e :: rest => if e.1 = key then (key, value) :: rest else e :: setEntry key value rest

/-- Removes an entry, the last one moving into its place. -/
def dropEntry (key : String) : List (String × Json) → List (String × Json)
  | [] => []
  | e :: rest =>
    if e.1 = key then
      match rest.getLast? with
      | none => []
      | some last => last :: rest.dropLast
    else e :: dropEntry key rest

theorem mem_keys_setEntry {k key : String} {value : Json} {es : List (String × Json)} :
    k ∈ (setEntry key value es).map Prod.fst ↔ k = key ∨ k ∈ es.map Prod.fst := by
  induction es with
  | nil => simp [setEntry]
  | cons e rest ih =>
    unfold setEntry
    by_cases h : e.1 = key
    · subst h; simp
    · simp only [h, if_false, List.map_cons, List.mem_cons, ih]
      constructor
      · rintro (h | h | h) <;> simp [h]
      · rintro (h | h | h) <;> simp [h]

theorem nodup_keys_setEntry (key : String) (value : Json) {es : List (String × Json)}
    (h : (es.map Prod.fst).Nodup) : ((setEntry key value es).map Prod.fst).Nodup := by
  induction es with
  | nil => simp [setEntry]
  | cons e rest ih =>
    simp only [List.map_cons, List.nodup_cons] at h
    unfold setEntry
    by_cases he : e.1 = key
    · subst he; simpa using h
    · rw [if_neg he, List.map_cons, List.nodup_cons, mem_keys_setEntry]
      exact ⟨fun hm => hm.elim he h.1, ih h.2⟩

/-- Moving the last entry to the front changes only the order. -/
theorem getLast_cons_dropLast_perm {es : List (String × Json)} {last : String × Json}
    (h : es.getLast? = some last) : (last :: es.dropLast).Perm es := by
  have hes : es = es.dropLast ++ [last] := by
    have hne : es ≠ [] := by intro h0; simp [h0] at h
    rw [List.getLast?_eq_some_getLast hne, Option.some.injEq] at h
    rw [← h, List.dropLast_concat_getLast hne]
  calc (last :: es.dropLast).Perm (es.dropLast ++ [last]) :=
        @List.perm_append_comm _ [last] es.dropLast
    _ = es := hes.symm

theorem mem_dropEntry {key : String} {es : List (String × Json)} {x : String × Json}
    (h : x ∈ dropEntry key es) : x ∈ es := by
  induction es with
  | nil => simp [dropEntry] at h
  | cons e rest ih =>
    unfold dropEntry at h
    by_cases he : e.1 = key
    · rw [if_pos he] at h
      cases hl : rest.getLast? with
      | none => simp [hl] at h
      | some last =>
        rw [hl] at h
        exact List.mem_cons_of_mem _ ((getLast_cons_dropLast_perm hl).mem_iff.1 h)
    · rw [if_neg he] at h
      rcases List.mem_cons.1 h with h | h
      · simp [h]
      · exact List.mem_cons_of_mem _ (ih h)

theorem nodup_keys_dropEntry (key : String) {es : List (String × Json)}
    (h : (es.map Prod.fst).Nodup) : ((dropEntry key es).map Prod.fst).Nodup := by
  induction es with
  | nil => simp [dropEntry]
  | cons e rest ih =>
    simp only [List.map_cons, List.nodup_cons] at h
    unfold dropEntry
    by_cases he : e.1 = key
    · rw [if_pos he]
      cases hl : rest.getLast? with
      | none => simp
      | some last =>
        exact (((getLast_cons_dropLast_perm hl).map Prod.fst).nodup_iff).2 h.2
    · rw [if_neg he, List.map_cons, List.nodup_cons]
      refine ⟨fun hm => h.1 ?_, ih h.2⟩
      obtain ⟨x, hx, hxe⟩ := List.mem_map.1 hm
      exact List.mem_map.2 ⟨x, mem_dropEntry hx, hxe⟩

/-- The entries that remain when a repeated name keeps its first place and its last value. -/
def settleEntries (entries : List (String × Json)) : List (String × Json) :=
  entries.foldl (fun es e => setEntry e.1 e.2 es) []

end AccelForm
