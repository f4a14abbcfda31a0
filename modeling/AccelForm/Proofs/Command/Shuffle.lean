import AccelForm.Proofs.Command.Order
import AccelForm.Proofs.Json.Members
/-
  Edit files with their keys in another order

  An edit file is an object of objects. If no key occurs twice in any of them,
  nothing is lost when they are read but the order of the keys: the whitelists
  are found by name, the data models are put in the order of their names, and
  the settings of a data model come out in another order. So two files that
  differ in the order of their keys are both unreadable, or they make edits
  that differ in the order of settings (`read_shuffled`).
-/

namespace AccelForm

open Json (Reader Fields ReadAs members_eq_some_iff map_fst_eq_keys)
open Json.Document (keys)

/-! ## Entries that do not repeat a name -/

theorem setEntry_of_not_mem {key : String} {value : Json} {es : List (String × Json)}
    (h : key ∉ es.map Prod.fst) : setEntry key value es = es ++ [(key, value)] := by
  induction es with
  | nil => rfl
  | cons e rest ih =>
    rw [List.map_cons, List.mem_cons, not_or] at h
    rw [setEntry, if_neg (Ne.symm h.1), ih h.2, List.cons_append]

theorem settleEntries_of_nodup {es : List (String × Json)} (h : (es.map Prod.fst).Nodup) :
    settleEntries es = es := by
  have happend (acc : List (String × Json)) (hacc : ((acc ++ es).map Prod.fst).Nodup) :
      es.foldl (fun es e => setEntry e.1 e.2 es) acc = acc ++ es := by
    clear h
    induction es generalizing acc with
    | nil => exact (List.append_nil acc).symm
    | cons e rest ih =>
      rw [List.append_cons] at hacc ⊢
      have hnew : e.1 ∉ acc.map Prod.fst := by
        rw [List.map_append, List.map_append, List.nodup_append, List.nodup_append] at hacc
        exact fun hmem => hacc.1.2.2 e.1 hmem e.1 (by simp) rfl
      rw [List.foldl_cons, setEntry_of_not_mem hnew]
      exact ih _ hacc
  exact happend [] h

namespace Edits

variable {room : Nat} {ms ms' : List (Option String × Json.Document)} {d d' : Json.Document}

/-! ## The edits of one data model -/

def fieldNames : List String := ["indexes", "tags_whitelist"]

/-- What edits without repeated keys are read as. -/
theorem readModel_eq_some_iff (hkeys : (keys ms).Nodup) {e : ModelEdits} :
    readModel room (.object ms) = some e ↔ ∃ entries,
      Reader.members Reader.value room (.object ms) = some entries ∧
      Fields.getD ⟨room - 1, Fields.named fieldNames ms⟩ "indexes" none
        (Reader.optional readIndexes) = some e.indexes ∧
      Fields.getD ⟨room - 1, Fields.named fieldNames ms⟩ "tags_whitelist" none
        (Reader.optional Reader.text) = some e.tags ∧
      e.settings = entries.filter fun p => p.1 ≠ "indexes" && p.1 ≠ "tags_whitelist" := by
  have hfields {entries : List (String × Json)}
      (h : Reader.members Reader.value room (.object ms) = some entries) :
      Fields.ofObject? fieldNames room (.object ms) =
        some ⟨room - 1, Fields.named fieldNames ms⟩ := by
    obtain ⟨hroom, hentries⟩ := members_eq_some_iff.1 h
    exact Fields.ofObject?_eq_some hroom hkeys fun _ => Json.fst_ne_none_of_mem hentries
  have hsettle {entries : List (String × Json)} (p : String × Json → Bool)
      (h : Reader.members Reader.value room (.object ms) = some entries) :
      settleEntries (entries.filter p) = entries.filter p := by
    refine settleEntries_of_nodup (List.Nodup.sublist (List.filter_sublist.map _) ?_)
    rw [map_fst_eq_keys (members_eq_some_iff.1 h).2]
    exact hkeys
  unfold readModel
  simp only [Option.bind_eq_bind, Option.bind_eq_some_iff, Option.pure_def, Option.some.injEq]
  constructor
  · rintro ⟨fs, hfs, entries, hentries, indexes, hindexes, tags, htags, rfl⟩
    obtain rfl := Option.some.inj (hfs.symm.trans (hfields hentries))
    exact ⟨entries, hentries, hindexes, htags, hsettle _ hentries⟩
  · rintro ⟨entries, hentries, hindexes, htags, hsettings⟩
    refine ⟨_, hfields hentries, entries, hentries, _, hindexes, _, htags, ?_⟩
    rw [hsettle _ hentries, ← hsettings]

/-- Whether two keys in the edits of a data model are different and not of one setting. -/
def Differ (k l : String) : Prop := k ≠ l ∧ Setting.Apart k l

theorem Differ.symm {k l : String} (h : Differ k l) : Differ l k := ⟨h.1.symm, h.2.symm⟩

/-- Whether no two keys in the edits of a data model are the same or of one setting. -/
def DistinctModel : Json.Document → Prop
  | .object ms => (keys ms).Pairwise Differ
  | _ => True

theorem DistinctModel.of_permuted (hdistinct : DistinctModel d) (h : d.Permuted d') :
    DistinctModel d' := by
  cases h with
  | refl => exact hdistinct
  | object hperm => exact ((hperm.filterMap _).pairwise_iff Differ.symm).1 hdistinct

/-- The edits of a data model with their keys in another order are read as the same, their
settings in another order. -/
theorem readModel_permuted (h : d.Permuted d') (hdistinct : DistinctModel d) {e : ModelEdits}
    (hread : readModel room d = some e) : ∃ e', readModel room d' = some e' ∧ e.Reordered e' := by
  obtain ⟨ms, ms', rfl, rfl, hperm⟩ : ∃ ms ms', d = .object ms ∧ d' = .object ms' ∧ ms.Perm ms' := by
    cases h with
    | object hperm => exact ⟨_, _, rfl, rfl, hperm⟩
    | refl =>
      cases d with
      | object ms => exact ⟨ms, ms, rfl, rfl, .refl ms⟩
      | _ => cases hread
  have hkeys : (keys ms).Nodup := hdistinct.imp And.left
  obtain ⟨entries, hentries, hindexes, htags, hsettings⟩ := (readModel_eq_some_iff hkeys).1 hread
  obtain ⟨hroom, hforall⟩ := members_eq_some_iff.1 hentries
  -- the same members are read one by one, so the entries change places as the members do
  obtain ⟨entries', hforall', hentriesPerm⟩ := List.perm_comp_forall₂ hperm.symm hforall
  have hfield {β : Type} (name : String) (r : Reader (Option β)) :
      Fields.getD ⟨room - 1, Fields.named fieldNames ms'⟩ name none r =
        Fields.getD ⟨room - 1, Fields.named fieldNames ms⟩ name none r := by
    rw [Fields.getD, Fields.getD, Fields.lookup_named_perm hkeys hperm]
  refine ⟨⟨e.indexes, e.tags, entries'.filter _⟩, (readModel_eq_some_iff ((hperm.filterMap _).nodup hkeys)).2
    ⟨entries', members_eq_some_iff.2 ⟨hroom, hforall'⟩, (hfield _ _).trans hindexes,
      (hfield _ _).trans htags, rfl⟩, rfl, rfl, ?_, ?_⟩
  · rw [hsettings]
    exact hentriesPerm.symm.filter _
  · have hdiffer : (entries.map Prod.fst).Pairwise Differ := by
      rw [map_fst_eq_keys hforall]
      exact hdistinct
    rw [hsettings]
    exact ((List.pairwise_map.1 hdiffer).filter _).imp And.right

/-! ## Files -/

/-- Whether in a file no data model has edits twice, and in the edits of none of them a key or a
setting occurs twice. -/
def Distinct : Json.Document → Prop
  | .object ms => (keys ms).Nodup ∧ ∀ m ∈ ms, DistinctModel m.2
  | _ => True

/-- Whether two members have the same key and differ only in the order of the keys below it. -/
def SameModel (m m' : Option String × Json.Document) : Prop := m.1 = m'.1 ∧ m.2.Permuted m'.2

/-- Whether two files differ only in the order of the data models and in the order of the keys in
the edits of each of them. -/
inductive Shuffled : Json.Document → Json.Document → Prop where
  | file {ms ms₁ ms' : List (Option String × Json.Document)} (models : ms.Perm ms₁)
      (edits : List.Forall₂ SameModel ms₁ ms') : Shuffled (.object ms) (.object ms')

section Models
variable (h : List.Forall₂ SameModel ms ms')

include h

theorem keys_eq_of_sameModel : keys ms = keys ms' := by
  induction h with
  | nil => rfl
  | cons hm _ ih =>
    unfold keys at ih ⊢
    rw [List.filterMap_cons, List.filterMap_cons, ← hm.1, ih]

theorem distinctModel_of_sameModel (hdistinct : ∀ m ∈ ms, DistinctModel m.2) :
    ∀ m ∈ ms', DistinctModel m.2 := by
  induction h with
  | nil => exact fun _ hm => nomatch hm
  | cons hm _ ih =>
    rw [List.forall_mem_cons] at hdistinct ⊢
    exact ⟨hdistinct.1.of_permuted hm.2, ih hdistinct.2⟩

end Models

theorem Shuffled.symm (h : Shuffled d d') : Shuffled d' d := by
  cases h with
  | file models edits =>
    obtain ⟨_, hedits, hmodels⟩ := List.perm_comp_forall₂ models edits
    exact .file hmodels.symm (hedits.flip.imp fun _ _ hm => ⟨hm.1.symm, hm.2.symm⟩)

theorem Distinct.of_shuffled (hdistinct : Distinct d) (h : Shuffled d d') : Distinct d' := by
  cases h with
  | file models edits =>
    refine ⟨?_, distinctModel_of_sameModel edits fun m hm =>
      hdistinct.2 m (models.mem_iff.2 hm)⟩
    rw [← keys_eq_of_sameModel edits]
    exact (models.filterMap _).nodup hdistinct.1

/-! ## Data models in the order of their names -/

theorem insert_eq (es : Edits) (e : String × ModelEdits) : insert es e = insertKeyed e es := by
  induction es with
  | nil => rfl
  | cons f rest ih => rw [insert, insertKeyed, ih]

theorem foldl_insert_perm {es es' : Edits} (h : (es.map Prod.fst).Nodup) (hperm : es.Perm es') :
    es.foldl insert [] = es'.foldl insert [] := by
  have hfoldr (es : Edits) : es.foldl insert [] = es.reverse.foldr insertKeyed [] := by
    rw [List.foldl_eq_foldr_reverse]
    simp only [insert_eq]
  rw [hfoldr, hfoldr]
  refine foldr_insertKeyed_perm ?_ ((List.reverse_perm es).trans (hperm.trans es'.reverse_perm.symm))
  rwa [List.map_reverse, List.nodup_reverse]

theorem Reordered.insert {es es' : Edits} (h : es.Reordered es') {e e' : String × ModelEdits}
    (he : e.1 = e'.1 ∧ e.2.Reordered e'.2) : (es.insert e).Reordered (es'.insert e') := by
  induction h with
  | nil => exact .cons he .nil
  | @cons f f' rest rest' hf hrest ih =>
    unfold Edits.insert
    rw [← he.1, ← hf.1]
    split
    · exact .cons he hrest
    · split
      · exact .cons he (.cons hf hrest)
      · exact .cons hf ih

theorem Reordered.foldl_insert {es es' : Edits} (hes : es.Reordered es') {acc acc' : Edits}
    (h : acc.Reordered acc') : (es.foldl Edits.insert acc).Reordered (es'.foldl Edits.insert acc') := by
  induction hes generalizing acc acc' with
  | nil => exact h
  | cons he _ ih => exact ih (h.insert he)

/-! ## Reading -/

/-- Members that differ in the order of the keys below them are read one by one as edits that
differ in the order of settings. -/
theorem exists_readAs_of_sameModel (h : List.Forall₂ SameModel ms ms')
    (hdistinct : ∀ m ∈ ms, DistinctModel m.2) {es : Edits}
    (hes : List.Forall₂ (ReadAs readModel room) ms es) :
    ∃ es', List.Forall₂ (ReadAs readModel room) ms' es' ∧ es.Reordered es' := by
  induction h generalizing es with
  | nil =>
    cases hes
    exact ⟨[], .nil, .nil⟩
  | @cons m m' _ _ hm _ ih =>
    rw [List.forall_mem_cons] at hdistinct
    cases hes with
    | @cons _ e _ _ he hrest =>
      obtain ⟨e', hread, he'⟩ := readModel_permuted hm.2 hdistinct.1 he.2
      obtain ⟨es', hes', hreordered⟩ := ih hdistinct.2 hrest
      exact ⟨(e.1, e') :: es', .cons ⟨hm.1.symm.trans he.1, hread⟩ hes',
        .cons ⟨rfl, he'⟩ hreordered⟩

/-- Shuffled files are read as edits that differ in the order of settings. -/
theorem read_eq_some_of_shuffled (h : Shuffled d d') (hdistinct : Distinct d) {edits : Edits}
    (hread : read room d = some edits) :
    ∃ edits', read room d' = some edits' ∧ edits.Reordered edits' := by
  cases h with
  | @file ms ms₁ ms' models hmodels =>
    obtain ⟨es, hes, rfl⟩ := Option.map_eq_some_iff.1 hread
    obtain ⟨hroom, hforall⟩ := members_eq_some_iff.1 hes
    have hkeys : (es.map Prod.fst).Nodup := by
      rw [map_fst_eq_keys hforall]
      exact hdistinct.1
    -- first the data models change places, then the keys of each of them
    obtain ⟨es₁, hforall₁, hperm⟩ := List.perm_comp_forall₂ models.symm hforall
    obtain ⟨es', hforall', hreordered⟩ := exists_readAs_of_sameModel hmodels
      (fun m hm => hdistinct.2 m (models.mem_iff.2 hm)) hforall₁
    rw [foldl_insert_perm hkeys hperm.symm]
    exact ⟨_, Option.map_eq_some_iff.2 ⟨es', members_eq_some_iff.2 ⟨hroom, hforall'⟩, rfl⟩,
      hreordered.foldl_insert .nil⟩

/-- Shuffled files are both unreadable, or read as edits that differ in the order of settings. -/
theorem read_shuffled (h : Shuffled d d') (hdistinct : Distinct d) :
    (read room d = none ∧ read room d' = none) ∨
    ∃ edits edits', read room d = some edits ∧ read room d' = some edits' ∧
      edits.Reordered edits' := by
  cases hread : read room d with
  | some edits =>
    obtain ⟨edits', hread', hreordered⟩ := read_eq_some_of_shuffled h hdistinct hread
    exact .inr ⟨edits, edits', rfl, hread', hreordered⟩
  | none =>
    cases hread' : read room d' with
    | none => exact .inl ⟨rfl, rfl⟩
    | some edits' =>
      obtain ⟨_, hcontra, _⟩ := read_eq_some_of_shuffled h.symm (hdistinct.of_shuffled h) hread'
      rw [hread] at hcontra
      cases hcontra

end Edits

end AccelForm
