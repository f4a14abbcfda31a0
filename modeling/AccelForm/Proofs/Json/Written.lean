import AccelForm.Proofs.Json.Members
import AccelForm.Proofs.Json.Spelling
/-
  Reading what was written

  A written record has each of its names once, so it is read as fields in which
  every name finds what was written for it (`Fields.exists_read?`). What a field
  is read as is then a matter of its reader alone: a text, a switch and a number
  of at most 64 bits are read as they are, and what is missing is read from
  null. A value is read from its text as it is read by itself, if all its
  numbers are whole numbers of 64 bits (`Reader.recovers_of_document`).
-/

namespace AccelForm.Json

/-! ## Fields of written records -/

theorem documentMembers_eq_map (ms : List (String × Json)) :
    documentMembers ms = ms.map fun m => (some m.1, m.2.document) := by
  induction ms with
  | nil => rfl
  | cons m rest ih => rw [documentMembers, ih, List.map_cons]

theorem keys_documentMembers (ms : List (String × Json)) :
    Document.keys (documentMembers ms) = ms.map Prod.fst := by
  induction ms with
  | nil => rfl
  | cons m rest ih => exact congrArg (m.1 :: ·) ih

namespace Fields

section Written
variable {ms : List (String × Json)} {v : Json} {room : Nat}
  (hv : v = .object ms) (hkeys : (ms.map Prod.fst).Nodup) (hroom : 1 < room)

include hv hkeys hroom

/-- A written object has the fields with the given names, each as it was written. -/
theorem exists_ofObject? (names : List String) :
    ∃ fs, ofObject? names room v.document = some fs ∧ fs.room = room - 1 ∧
      ∀ m ∈ ms, m.1 ∈ names → fs.found.lookup m.1 = some m.2.document := by
  subst hv
  have hkeys' : (Document.keys (documentMembers ms)).Nodup := by rwa [keys_documentMembers]
  have hread : ∀ m ∈ documentMembers ms, m.1 ≠ none := by
    rw [documentMembers_eq_map]
    rintro _ hm
    obtain ⟨m, _, rfl⟩ := List.mem_map.1 hm
    exact Option.some_ne_none _
  refine ⟨_, ofObject?_eq_some hroom hkeys' hread, rfl, fun m hm hname => ?_⟩
  rw [lookup_eq_some_iff_mem (hkeys'.sublist (named_sublist names _))]
  refine List.mem_filterMap.2 ⟨(some m.1, m.2.document), ?_, ?_⟩
  · rw [documentMembers_eq_map]
    exact List.mem_map_of_mem hm
  · exact if_pos (List.contains_iff_mem.2 hname)

/-- A written record is read as its fields, each as it was written. -/
theorem exists_read? :
    ∃ fs, read? (ms.map Prod.fst) room v.document = some fs ∧ fs.room = room - 1 ∧
      ∀ m ∈ ms, fs.found.lookup m.1 = some m.2.document := by
  obtain ⟨fs, hfs, hfsRoom, hfound⟩ := exists_ofObject? hv hkeys hroom (ms.map Prod.fst)
  subst hv
  exact ⟨fs, hfs, hfsRoom, fun m hm => hfound m hm (List.mem_map_of_mem hm)⟩

end Written

section Found
variable {fs : Fields} {name : String} {v : Json} {r : Reader α} {a : α} {f : α → Option β} {b : β}
  (hfound : fs.found.lookup name = some v.document) (hread : r fs.room v.document = some a)
  (hrest : f a = some b)

include hfound hread hrest

/-- A field that must be there and can be read is handed on. -/
theorem required_bind : (fs.required name r >>= f) = some b := by
  rw [required, hfound, Option.bind_some, hread]
  exact hrest

/-- So is a field with a default, which does not come into play. -/
theorem getD_bind {default : α} : (fs.getD name default r >>= f) = some b := by
  rw [getD, hfound]
  exact Option.bind_eq_some_iff.2 ⟨a, hread, hrest⟩

end Found

end Fields

namespace Reader

variable {room : Nat}

theorem text_document (s : String) : text room (Json.string s).document = some s := rfl

theorem switch_document (b : Bool) : switch room (Json.bool b).document = some b := rfl

theorem word_document {n : Nat} (h : n < Text.wordBound) :
    word room (Json.nat n).document = some n := by
  have hbound : (n : Int) < Text.wordBound := Int.ofNat_lt.2 h
  simp [Json.nat, document, word, hbound]

/-- A value that may be missing is read from null or from itself. -/
theorem optional_document {r : Reader α} {f : α → Json} {a : Option α}
    (hread : ∀ x ∈ a, r room (f x).document = some x) (hnull : ∀ x, f x ≠ .null) :
    optional r room (Json.ofOption f a).document = some a := by
  cases a with
  | none => rfl
  | some x =>
    have hx := hread x rfl
    have hne := hnull x
    show optional r room (f x).document = _
    cases hv : f x with
    | null => exact absurd hv hne
    | _ =>
      rw [hv] at hx
      show (r room _).map some = _
      rw [hx]
      rfl

/-- A text that may be missing. -/
theorem optionalText_document (a : Option String) :
    optional text room (Json.ofOption .string a).document = some a :=
  optional_document (fun _ _ => rfl) (fun _ => Json.noConfusion)

theorem optionalSwitch_document (a : Option Bool) :
    optional switch room (Json.ofOption .bool a).document = some a :=
  optional_document (fun _ _ => rfl) (fun _ => Json.noConfusion)

theorem optionalWord_document {a : Option Nat} (h : ∀ n ∈ a, n < Text.wordBound) :
    optional word room (Json.ofOption .nat a).document = some a :=
  optional_document (fun n hn => word_document (h n hn)) (fun _ => Json.noConfusion)

/-- Whether a value is read as something, by itself and from its text. -/
def Recovers (r : Reader α) (v : Json) (a : α) : Prop :=
  r fullRoom v.document = some a ∧ r.run v.compact = some a

/-- What a value without other numbers is read as by itself it is read as from its text. -/
theorem recovers_of_document {r : Reader α} {v : Json} {a : α} (hv : v.Integral)
    (h : r fullRoom v.document = some a) : r.Recovers v a := by
  refine ⟨h, ?_⟩
  rw [run, Document.read?_compact hv]
  exact h

end Reader

/-! ## Numbers of written records -/

theorem integral_nat {n : Nat} (h : n < Text.wordBound) : (nat n).Integral :=
  ⟨Int.le_trans (by decide) (Int.natCast_nonneg n), Int.ofNat_lt.2 h⟩

theorem integral_ofOption {f : α → Json} {a : Option α} (h : ∀ x ∈ a, (f x).Integral) :
    (ofOption f a).Integral := by
  cases a with
  | none => trivial
  | some x => exact h x rfl

end AccelForm.Json
