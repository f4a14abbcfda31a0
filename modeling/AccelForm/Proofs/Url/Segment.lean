import AccelForm.Proofs.Url.Percent
/-
  Segments of a path

  A name is spelled as one segment of a path: reading the spelling gives the
  name back, and none of the characters that mean something in an address
  occurs in it, so that a segment ends at the first slash behind it
  (`encodeSegment_append_inj`). This holds of all names, those included that
  look like a path or like a spelling themselves.
-/

namespace AccelForm.Url

/-- The text that a spelling stands for, if its bytes are those of a text. -/
def decode? (spelling : String) : Option String :=
  String.fromUTF8? ⟨(decodeChars spelling.toList).toArray⟩

theorem decode?_encode {escaped : UInt8 → Bool} (h : Reversible escaped) (s : String) :
    decode? (encode escaped s) = some s := by
  have hbytes : (⟨(bytesOf s).toArray⟩ : ByteArray) = s.toByteArray := by
    unfold bytesOf
    rw [Array.toArray_toList]
    rfl
  unfold decode? String.fromUTF8?
  rw [decodeChars_encode h, hbytes, dif_pos s.isValidUTF8]
  rfl

/-- A character of a spelling belongs to an escaped byte, or is a byte that stands for itself. -/
theorem mem_encodeBytes {escaped : UInt8 → Bool} {bytes : List UInt8} {c : Char}
    (h : c ∈ encodeBytes escaped bytes) :
    c = '%' ∨ (∃ n < 16, c = upperDigit n) ∨ ∃ b, escaped b = false ∧ c = byteChar b := by
  obtain ⟨b, _, hc⟩ := List.mem_flatMap.1 h
  have hb : b.toNat < 256 := b.toNat_lt
  cases hescaped : escaped b with
  | true =>
    simp only [hescaped, if_true, escapeByte, List.mem_cons, List.not_mem_nil, or_false] at hc
    obtain hpercent | hhigh | hlow := hc
    · exact .inl hpercent
    · exact .inr (.inl ⟨b.toNat / 16, by omega, hhigh⟩)
    · exact .inr (.inl ⟨b.toNat % 16, by omega, hlow⟩)
  | false =>
    simp only [hescaped] at hc
    exact .inr (.inr ⟨b, hescaped, List.mem_singleton.1 hc⟩)

theorem upperDigit_not_mem_segmentReserved : ∀ n < 16, upperDigit n ∉ segmentReserved := by
  decide

/-- In a segment no reserved character occurs but the percent sign. -/
theorem not_mem_encodeSegment {c : Char} (hreserved : c ∈ segmentReserved) (hpercent : c ≠ '%')
    (s : String) : c ∉ (encodeSegment s).toList := by
  intro hc
  unfold encodeSegment encode at hc
  rw [String.toList_ofList] at hc
  obtain h | ⟨n, hn, rfl⟩ | ⟨b, hplain, rfl⟩ := mem_encodeBytes hc
  · exact hpercent h
  · exact upperDigit_not_mem_segmentReserved n hn hreserved
  · have hone : isOneOf segmentReserved b = true := List.contains_iff_mem.2 hreserved
    simp [segmentEscaped, hone] at hplain

theorem slash_not_mem_encodeSegment (s : String) : '/' ∉ (encodeSegment s).toList :=
  not_mem_encodeSegment (by decide) (by decide) s

/-- Texts that hold no slash are told from what follows the first one. -/
theorem append_slash_inj {as bs rest rest' : List Char} (ha : '/' ∉ as) (hb : '/' ∉ bs) :
    as ++ '/' :: rest = bs ++ '/' :: rest' ↔ as = bs ∧ rest = rest' := by
  induction as generalizing bs with
  | nil =>
    cases bs with
    | nil => simp
    | cons b bs =>
      have hne : '/' ≠ b := fun h => hb (h ▸ List.mem_cons_self)
      simp [hne]
  | cons a as ih =>
    have hne : a ≠ '/' := fun h => ha (h ▸ List.mem_cons_self)
    have has : '/' ∉ as := fun h => ha (List.mem_cons_of_mem a h)
    cases bs with
    | nil => simp [hne]
    | cons b bs =>
      have hbs : '/' ∉ bs := fun h => hb (List.mem_cons_of_mem b h)
      simp [ih has hbs, and_assoc]

/-- A segment ends at the slash behind it. -/
theorem encodeSegment_append_inj {s s' rest rest' : String} :
    encodeSegment s ++ ("/" ++ rest) = encodeSegment s' ++ ("/" ++ rest') ↔
      s = s' ∧ rest = rest' := by
  have hsplit : (encodeSegment s).toList ++ '/' :: rest.toList =
      (encodeSegment s').toList ++ '/' :: rest'.toList ↔
        (encodeSegment s).toList = (encodeSegment s').toList ∧ rest.toList = rest'.toList :=
    append_slash_inj (slash_not_mem_encodeSegment s) (slash_not_mem_encodeSegment s')
  rw [String.toList_inj, String.toList_inj, encodeSegment_inj] at hsplit
  rw [← hsplit, ← String.toList_inj]
  simp

end AccelForm.Url
