import AccelForm.Proofs.Whitelist.Display
/-
  Definitions written and read again

  A definition is read by looking for terms anywhere in it. A name could run
  into what follows it, and a name that holds the word of a term could be taken
  for one. Neither happens in a definition that was written from names that
  need no quotes: no name may hold the character behind a term, the search goes
  on right there (`namesFrom_term`), and nothing between two terms begins a
  term. So the names come back in their order (`decodeNames_encode`). Names that
  were read need no quotes, so writing them again loses nothing, and every list
  of such names is read from some definition (`decode_rewritten`).
-/

namespace AccelForm.Whitelist

/-! ## One term -/

/-- A name ends where a character follows that no name may hold. -/
theorem nameAt?_append {name : List Char} (h : IsIndexName name) {c : Char}
    (hc : isNameChar c = false) (rest : List Char) :
    nameAt? (name ++ c :: rest) = some (name, c :: rest) := by
  have htaken : (name ++ c :: rest).takeWhile isNameChar = name := by
    rw [List.takeWhile_append_of_pos h.isNameChar, List.takeWhile_cons_of_neg (by simp [hc]),
      List.append_nil]
  have hleft : (name ++ c :: rest).dropWhile isNameChar = c :: rest := by
    rw [List.dropWhile_append_of_pos h.isNameChar, List.dropWhile_cons_of_neg (by simp [hc])]
  have hne : name.isEmpty = false := by simpa using h.ne_nil
  simp only [nameAt?, htaken, hleft, hne]
  rfl

theorem termAt?_append {name : List Char} (h : IsIndexName name) {c : Char}
    (hc : isNameChar c = false) (rest : List Char) :
    termAt? ("index=".toList ++ name ++ c :: rest) = some (name, c :: rest) := by
  have hword : "index".toList.isPrefixOf? ("index=".toList ++ name ++ c :: rest) =
      some ('=' :: (name ++ c :: rest)) := by
    rw [List.isPrefixOf?_eq_some_iff_append_eq, List.append_assoc]
    rfl
  have hsign : ('=' :: (name ++ c :: rest)).dropWhile Text.isBlank = '=' :: (name ++ c :: rest) :=
    List.dropWhile_cons_of_neg (by decide)
  have hvalue : (name ++ c :: rest).dropWhile Text.isBlank = name ++ c :: rest := by
    obtain ⟨d, name', rfl⟩ := List.exists_cons_of_ne_nil h.ne_nil
    have hd := isBlank_of_isNameChar (h.isNameChar d List.mem_cons_self)
    exact List.dropWhile_cons_of_neg (by simp [hd])
  rw [termAt?, hword, Option.bind_some, hsign]
  simp only [hvalue]
  exact nameAt?_append h hc rest

theorem termAt?_of_ne {c : Char} (hc : c ≠ 'i') (rest : List Char) :
    termAt? (c :: rest) = none := by
  have hword : "index".toList.isPrefixOf? (c :: rest) = none := by
    simp [List.isPrefixOf?, Ne.symm hc]
  rw [termAt?, hword, Option.bind_none]

/-! ## The search -/

theorem namesFrom_eq_drop (skip : Nat) (cs : List Char) :
    namesFrom skip cs = namesFrom 0 (cs.drop skip) := by
  induction skip generalizing cs with
  | zero => rfl
  | succ skip ih =>
    cases cs with
    | nil => rfl
    | cons c rest => rw [namesFrom, ih, List.drop_succ_cons]

/-- What cannot begin a term is passed over. -/
theorem namesFrom_cons_of_ne {c : Char} (hc : c ≠ 'i') (rest : List Char) :
    namesFrom 0 (c :: rest) = namesFrom 0 rest := by
  rw [namesFrom, termAt?_of_ne hc]

/-- The search goes on behind a term that it has found. -/
theorem namesFrom_of_termAt? {front name after : List Char} (hne : front ≠ [])
    (h : termAt? (front ++ after) = some (name, after)) :
    namesFrom 0 (front ++ after) = name :: namesFrom 0 after := by
  obtain ⟨c, more, rfl⟩ := List.exists_cons_of_ne_nil hne
  have hlength : (more ++ after).length - after.length = more.length := by
    rw [List.length_append, Nat.add_sub_cancel]
  rw [List.cons_append] at h ⊢
  rw [namesFrom, h]
  simp only [hlength]
  rw [namesFrom_eq_drop, List.drop_left]

theorem namesFrom_term {name : List Char} (h : IsIndexName name) {c : Char}
    (hc : isNameChar c = false) (rest : List Char) :
    namesFrom 0 ("index=".toList ++ name ++ c :: rest) = name :: namesFrom 0 (c :: rest) :=
  namesFrom_of_termAt? (by simp) (termAt?_append h hc rest)

/-- What follows the opening bracket of a definition. -/
def body (names : List (List Char)) : List Char :=
  " OR ".toList.intercalate (names.map ("index=".toList ++ ·)) ++ [')']

theorem body_singleton (name : List Char) : body [name] = "index=".toList ++ name ++ [')'] := by
  rw [body, List.map_cons, List.map_nil, List.intercalate_singleton]

theorem body_cons_cons (name next : List Char) (names : List (List Char)) :
    body (name :: next :: names) =
      "index=".toList ++ name ++ ' ' :: 'O' :: 'R' :: ' ' :: body (next :: names) := by
  rw [body, List.map_cons, List.map_cons, List.intercalate_cons_cons, ← List.map_cons,
    List.append_assoc, List.append_assoc]
  rfl

theorem namesFrom_body {names : List (List Char)} (h : ∀ name ∈ names, IsIndexName name) :
    namesFrom 0 (body names) = names := by
  induction names with
  | nil => rfl
  | cons name names ih =>
    have hname := h name List.mem_cons_self
    have ih := ih fun n hn => h n (List.mem_cons_of_mem _ hn)
    cases names with
    | nil =>
      calc namesFrom 0 (body [name])
          = name :: namesFrom 0 [')'] := by rw [body_singleton, namesFrom_term hname (by decide)]
        _ = [name] := rfl
    | cons next names =>
      -- none of the characters between two terms is the first one of a term
      calc namesFrom 0 (body (name :: next :: names))
          = name :: namesFrom 0 (' ' :: 'O' :: 'R' :: ' ' :: body (next :: names)) := by
            rw [body_cons_cons, namesFrom_term hname (by decide)]
        _ = name :: namesFrom 0 (body (next :: names)) := by
            rw [namesFrom_cons_of_ne (by decide), namesFrom_cons_of_ne (by decide),
              namesFrom_cons_of_ne (by decide), namesFrom_cons_of_ne (by decide)]
        _ = name :: next :: names := by rw [ih]

/-! ## Definitions -/

theorem toList_encode (names : List String) :
    (encode names).toList = '(' :: body ((names.filter (· ≠ "")).map String.toList) := by
  have hterms : ((names.filter (· ≠ "")).map term).map String.toList =
      ((names.filter (· ≠ "")).map String.toList).map ("index=".toList ++ ·) := by
    rw [List.map_map, List.map_map]
    exact List.map_congr_left fun name _ => String.toList_append
  rw [encode, String.toList_append, String.toList_append, String.toList_intercalate, hterms]
  rfl

theorem decodeNames_encode {names : List String}
    (h : ∀ name ∈ names, ∀ c ∈ name.toList, isNameChar c = true) :
    decodeNames (encode names) = names.filter (· ≠ "") := by
  have hnames : ∀ cs ∈ (names.filter (· ≠ "")).map String.toList, IsIndexName cs := by
    intro cs hcs
    obtain ⟨name, hname, rfl⟩ := List.mem_map.1 hcs
    obtain ⟨hname, hne⟩ := List.mem_filter.1 hname
    exact ⟨by simpa using hne, h name hname⟩
  calc decodeNames (encode names)
      = (namesFrom 0 (body ((names.filter (· ≠ "")).map String.toList))).map String.ofList := by
        rw [decodeNames, toList_encode, namesFrom_cons_of_ne (by decide)]
    _ = ((names.filter (· ≠ "")).map String.toList).map String.ofList := by
        rw [namesFrom_body hnames]
    _ = names.filter (· ≠ "") := by
        rw [List.map_map]
        simp

theorem decodeNames_encode_of_isIndexName {names : List String}
    (h : ∀ name ∈ names, IsIndexName name.toList) : decodeNames (encode names) = names := by
  rw [decodeNames_encode fun name hname => (h name hname).isNameChar, List.filter_eq_self]
  intro name hname
  simpa using (h name hname).ne_nil

/-- A definition that is written from names without characters that need quotes reads as those of
the names that are not empty, in their order and as often as they were given. -/
theorem decode_encode {names : List String}
    (h : ∀ name ∈ names, ∀ c ∈ name.toList, isNameChar c = true) :
    decode (encode names) = display (names.filter (· ≠ "")) ∧
      split (decode (encode names)) = names.filter (· ≠ "") := by
  rw [split_decode, decode, decodeNames_encode h]
  exact ⟨rfl, rfl⟩

/-- The names of indexes that hold the word of a term, end in what may go on, or are given twice. -/
def trickyNames : List String := ["index", "main", "", "index-index*", "main", "-", "größe_1"]

theorem trickyNames_decode_encode :
    (∀ name ∈ trickyNames, ∀ c ∈ name.toList, isNameChar c = true) ∧
      decode (encode trickyNames) = "index,main,index-index*,main,-,größe_1" ∧
      split (decode (encode trickyNames)) =
        ["index", "main", "index-index*", "main", "-", "größe_1"] :=
  have hall : (trickyNames.all fun name => name.toList.all isNameChar) = true := by decide +kernel
  have hnames : ∀ name ∈ trickyNames, ∀ c ∈ name.toList, isNameChar c = true := by
    simpa only [List.all_eq_true] using hall
  have hread := decode_encode hnames
  ⟨hnames, hread.1, hread.2⟩

/-- A definition that is written from the names that were read from another one reads the same as
that. What can be read are just the lists of names that need no quotes. -/
theorem decode_rewritten :
    (∀ definition, decode (encode (split (decode definition))) = decode definition) ∧
      ∀ names, (∃ definition, split (decode definition) = names) ↔
        ∀ name ∈ names, IsIndexName name.toList := by
  refine ⟨fun definition => ?_, fun names => ⟨?_, fun h => ⟨encode names, ?_⟩⟩⟩
  · have hnames : ∀ name ∈ decodeNames definition, IsIndexName name.toList :=
      fun _ => isIndexName_of_mem_decodeNames
    rw [split_decode, decode, decodeNames_encode_of_isIndexName hnames, ← decode]
  · rintro ⟨definition, rfl⟩ name hname
    rw [split_decode] at hname
    exact isIndexName_of_mem_decodeNames hname
  · rw [split_decode, decodeNames_encode_of_isIndexName h]

end AccelForm.Whitelist
