import AccelForm.Url.Percent
/-
  Percent-encoding can be undone

  Decoding gives back what was spelled, if the percent sign and every byte that
  is not ASCII are spelled with a percent sign (`Reversible`): a triple is read
  as the byte that it stands for, and what stands for itself begins no triple.
  So distinct texts have distinct spellings, in a segment of a path as anywhere
  else.
-/

namespace AccelForm.Url

theorem bytesOf_inj {s t : String} : bytesOf s = bytesOf t ↔ s = t := by
  refine ⟨fun h => ?_, congrArg bytesOf⟩
  have hbytes : s.toByteArray = t.toByteArray := ByteArray.ext (Array.toList_inj.1 h)
  exact String.toByteArray_inj.1 hbytes

/-- What a spelling has to escape in order to be read back. -/
structure Reversible (escaped : UInt8 → Bool) : Prop where
  percent : escaped 0x25 = true
  beyondAscii : ∀ b, 0x80 ≤ b → escaped b = true

theorem hexValue?_upperDigit : ∀ n < 16, Text.hexValue? (upperDigit n) = some n := by
  decide

theorem decodeChars_escapeByte (b : UInt8) (rest : List Char) :
    decodeChars (escapeByte b ++ rest) = b :: decodeChars rest := by
  have hb : b.toNat < 256 := b.toNat_lt
  have hhigh := hexValue?_upperDigit (b.toNat / 16) (by omega)
  have hlow := hexValue?_upperDigit (b.toNat % 16) (by omega)
  have hvalue : 16 * (b.toNat / 16) + b.toNat % 16 = b.toNat := by omega
  simp only [escapeByte, List.cons_append, List.nil_append, decodeChars, hhigh, hlow, hvalue,
    UInt8.ofNat_toNat]

theorem toNat_byteChar (b : UInt8) : (byteChar b).toNat = b.toNat := by
  have hb : b.toNat < 256 := b.toNat_lt
  have hvalid : b.toNat.isValidChar := Or.inl (by omega)
  unfold byteChar Char.ofNat
  rw [dif_pos hvalid]
  rfl

theorem utf8EncodeChar_byteChar {b : UInt8} (h : b < 0x80) :
    String.utf8EncodeChar (byteChar b) = [b] := by
  have hb : (byteChar b).val.toNat = b.toNat := toNat_byteChar b
  have hle : b.toNat ≤ 127 := Nat.le_of_lt_succ (UInt8.lt_iff_toNat_lt.1 h)
  simp only [String.utf8EncodeChar, hb, if_pos hle, UInt8.ofNat_toNat]

theorem decodeChars_byteChar {b : UInt8} (hascii : b < 0x80) (hpercent : b ≠ 0x25)
    (rest : List Char) : decodeChars (byteChar b :: rest) = b :: decodeChars rest := by
  have hne : byteChar b ≠ '%' := by
    intro h
    have hcode : b.toNat = 0x25 := (toNat_byteChar b).symm.trans (congrArg Char.toNat h)
    exact hpercent (UInt8.toNat_inj.1 hcode)
  rw [decodeChars, utf8EncodeChar_byteChar hascii]
  · rfl
  · exact fun _ _ _ h _ => hne h

theorem decodeChars_encodeBytes {escaped : UInt8 → Bool} (h : Reversible escaped)
    (bytes : List UInt8) : decodeChars (encodeBytes escaped bytes) = bytes := by
  unfold encodeBytes
  induction bytes with
  | nil => rfl
  | cons b rest ih =>
    rw [List.flatMap_cons]
    split
    · rw [decodeChars_escapeByte, ih]
    · next hplain =>
      have hascii : b < 0x80 := UInt8.not_le.1 fun hge => hplain (h.beyondAscii b hge)
      have hpercent : b ≠ 0x25 := fun hb => hplain (hb ▸ h.percent)
      rw [List.singleton_append, decodeChars_byteChar hascii hpercent, ih]

/-- What is spelled reversibly is read back. -/
theorem decodeChars_encode {escaped : UInt8 → Bool} (h : Reversible escaped) (s : String) :
    decodeChars (encode escaped s).toList = bytesOf s := by
  rw [encode, String.toList_ofList, decodeChars_encodeBytes h]

theorem encode_inj {escaped : UInt8 → Bool} (h : Reversible escaped) {s t : String} :
    encode escaped s = encode escaped t ↔ s = t := by
  refine ⟨fun hst => bytesOf_inj.1 ?_, congrArg (encode escaped)⟩
  rw [← decodeChars_encode h s, hst, decodeChars_encode h t]

theorem reversible_segmentEscaped : Reversible segmentEscaped where
  percent := by decide
  beyondAscii b hb := by
    have hcontrol : 0x7f ≤ b := UInt8.le_trans (by decide) hb
    simp [segmentEscaped, isControl, hcontrol]

theorem encodeSegment_inj {s t : String} : encodeSegment s = encodeSegment t ↔ s = t :=
  encode_inj reversible_segmentEscaped

end AccelForm.Url
