import AccelForm.Proofs.Binary64.Nearest
/-
  Numbers and their texts

  The text of a number is a numeral: digits, a point with more digits, and
  perhaps an exponent. Whichever form the writer chooses, the numeral denotes
  the decimal chosen for the number (`spells_magnitudeChars`), so a number is
  read back from its text (`read?_chars`). A whole number as text is read as
  the number nearest to it, which is that whole number if its binary digits
  fit (`whole?_ofFraction`) and another one if they do not (`IsExact.of_whole?`).
-/

namespace AccelForm

namespace Decimal

/-! ## Numerals -/

/-- What may follow the digits of a numeral: nothing, or an exponent with its sign. -/
inductive IsExponent : List Char → Int → Prop
  | absent : IsExponent [] 0
  | given (e : Int) :
      IsExponent ('e' :: (if e < 0 then '-' else '+') :: Finite64.decimalChars e.natAbs) e

variable {whole fraction rest cs : List Char} {e : Int} {d : Decimal}

theorem IsExponent.read (h : IsExponent rest e) : exponent? rest = some e := by
  cases h with
  | absent => rfl
  | given e =>
    have hdigits : Text.natural? (Finite64.decimalChars e.natAbs) = some e.natAbs :=
      Text.natural?_toDigits _
    unfold exponent?
    by_cases he : e < 0
    · rw [if_pos he]
      simp [takeSign, hdigits, abs_of_neg he]
    · rw [if_neg he]
      simp only [takeSign, hdigits]
      simp
      omega

theorem IsExponent.head (h : IsExponent rest e) {c : Char} (hc : rest.head? = some c) :
    c = 'e' := by
  cases h with
  | absent => cases hc
  | given e => exact (Option.some.inj hc).symm

theorem IsExponent.blank (h : IsExponent rest e) : ∀ c ∈ rest, Text.isBlank c = false := by
  cases h with
  | absent => simp
  | given e =>
    intro c hc
    simp only [List.mem_cons] at hc
    rcases hc with rfl | rfl | hc
    · rfl
    · split <;> rfl
    · exact Text.isBlank_of_isDigit (Text.isDigit_of_mem_toDigits hc)

/-- Whether characters are a row of digits. -/
def IsDigits (cs : List Char) : Prop := ∀ c ∈ cs, c.isDigit = true

theorem IsDigits.append (h : IsDigits whole) (h' : IsDigits fraction) :
    IsDigits (whole ++ fraction) := by
  intro c hc
  exact (List.mem_append.1 hc).elim (h c) (h' c)

theorem isDigits_zeros (n : Nat) : IsDigits (List.replicate n '0') := by
  intro c hc
  rw [List.eq_of_mem_replicate hc]
  rfl

theorem isDigits_decimalChars (n : Nat) : IsDigits (Finite64.decimalChars n) :=
  fun _ => Text.isDigit_of_mem_toDigits

theorem takeWhile_isDigit (rest : List Char) (hw : IsDigits whole)
    (hrest : ∀ c, rest.head? = some c → c.isDigit = false) :
    (whole ++ rest).takeWhile Char.isDigit = whole ∧
      (whole ++ rest).dropWhile Char.isDigit = rest := by
  have hstop : rest.takeWhile Char.isDigit = [] ∧ rest.dropWhile Char.isDigit = rest := by
    cases rest with
    | nil => exact ⟨rfl, rfl⟩
    | cons c rest => simp [hrest c rfl]
  rw [List.takeWhile_append_of_pos hw, List.dropWhile_append_of_pos hw, hstop.1, hstop.2,
    List.append_nil]
  exact ⟨rfl, rfl⟩

theorem read?_point (hw : IsDigits whole) (hf : IsDigits fraction) (hne : whole ≠ [])
    (h : IsExponent rest e) :
    read? (whole ++ '.' :: (fraction ++ rest)) =
      some ⟨Text.decimalValue (whole ++ fraction), e - fraction.length⟩ := by
  obtain ⟨hwhole, htail⟩ := takeWhile_isDigit ('.' :: (fraction ++ rest)) hw
    (fun c hc => by rw [← Option.some.inj hc]; rfl)
  obtain ⟨hfraction, hrest⟩ := takeWhile_isDigit rest hf
    (fun c hc => by rw [h.head hc]; rfl)
  unfold read?
  rw [hwhole, htail]
  dsimp only
  split
  · next tail heq =>
    rw [← (List.cons.inj heq).2, hfraction, hrest, h.read]
    simp [hne]
  · next hno => exact absurd rfl (hno _)

theorem read?_whole (hw : IsDigits whole) (hne : whole ≠ []) (h : IsExponent rest e) :
    read? (whole ++ rest) = some ⟨Text.decimalValue whole, e⟩ := by
  obtain ⟨hwhole, htail⟩ := takeWhile_isDigit rest hw
    (fun c hc => by rw [h.head hc]; rfl)
  unfold read?
  rw [hwhole, htail]
  dsimp only
  split
  · next tail =>
    -- what follows is no point
    exact absurd (h.head rfl) (by decide)
  · rw [List.append_nil, h.read]
    simp [hne]

/-- Characters that spell an unsigned decimal which denotes what a given one does. -/
structure Spells (cs : List Char) (d : Decimal) : Prop where
  head : ∃ c rest, cs = c :: rest ∧ c.isDigit = true
  blank : ∀ c ∈ cs, Text.isBlank c = false
  reads : ∃ e, read? cs = some e ∧ e.Agrees d

theorem exists_digit_head (hw : IsDigits whole) (hne : whole ≠ []) (tail : List Char) :
    ∃ c rest, whole ++ tail = c :: rest ∧ c.isDigit = true := by
  cases whole with
  | nil => exact absurd rfl hne
  | cons c whole => exact ⟨c, whole ++ tail, rfl, hw c (by simp)⟩

theorem Spells.point (hw : IsDigits whole) (hf : IsDigits fraction) (hne : whole ≠ [])
    (h : IsExponent rest e)
    (hd : Agrees ⟨Text.decimalValue (whole ++ fraction), e - fraction.length⟩ d) :
    Spells (whole ++ '.' :: (fraction ++ rest)) d where
  head := exists_digit_head hw hne _
  blank := by
    intro c hc
    simp only [List.mem_append, List.mem_cons] at hc
    rcases hc with hc | rfl | hc | hc
    · exact Text.isBlank_of_isDigit (hw c hc)
    · rfl
    · exact Text.isBlank_of_isDigit (hf c hc)
    · exact h.blank c hc
  reads := ⟨_, read?_point hw hf hne h, hd⟩

theorem Spells.unpointed (hw : IsDigits whole) (hne : whole ≠ []) (h : IsExponent rest e)
    (hd : Agrees ⟨Text.decimalValue whole, e⟩ d) : Spells (whole ++ rest) d where
  head := exists_digit_head hw hne _
  blank := by
    intro c hc
    rcases List.mem_append.1 hc with hc | hc
    · exact Text.isBlank_of_isDigit (hw c hc)
    · exact h.blank c hc
  reads := ⟨_, read?_whole hw hne h, hd⟩

/-- A text of digits with a minus sign in front of it, if there is to be one. -/
def signed (negative : Bool) (cs : List Char) : List Char := if negative then '-' :: cs else cs

theorem takeSign_signed (negative : Bool) {c : Char} (hc : c.isDigit = true) :
    takeSign (signed negative (c :: rest)) = (negative, c :: rest) := by
  cases negative with
  | true => rfl
  | false =>
    unfold signed takeSign
    simp only [Bool.false_eq_true, if_false]
    split
    · next heq => cases heq; cases hc
    · next heq => cases heq; cases hc
    · rfl

/-- No name of a number that is not finite begins with a digit. -/
theorem lower_ne_name {c : Char} (hc : c.isDigit = true) (rest : List Char) :
    String.ofList (Text.lowerChars (c :: rest)) ≠ "inf" ∧
      String.ofList (Text.lowerChars (c :: rest)) ≠ "infinity" ∧
      String.ofList (Text.lowerChars (c :: rest)) ≠ "nan" := by
  have hhead : ∀ {w : String}, String.ofList (Text.lowerChars (c :: rest)) = w →
      w.toList.head? = some c := by
    rintro w rfl
    simp [Text.lowerChars, Text.toLower_of_isDigit hc]
  refine ⟨fun h => ?_, fun h => ?_, fun h => ?_⟩ <;>
    · have := Option.some.inj (hhead h)
      rw [← this] at hc
      cases hc

/-- A numeral with a sign is read as the number nearest to what it denotes. -/
theorem Spells.read?_signed (h : Spells cs d) (negative : Bool) :
    Binary64.read? (signed negative cs) = some (d.nearest negative) := by
  obtain ⟨c, rest, rfl, hc⟩ := h.head
  obtain ⟨e, he, hagrees⟩ := h.reads
  obtain ⟨hinf, hinfinity, hnan⟩ := lower_ne_name hc rest
  unfold Binary64.read?
  rw [takeSign_signed negative hc]
  dsimp only
  rw [if_neg (by simp [hinf, hinfinity]), if_neg hnan, he, Option.map_some, hagrees.nearest_eq]

theorem Spells.blank_signed (h : Spells cs d) (negative : Bool) :
    ∀ c ∈ signed negative cs, Text.isBlank c = false := by
  cases negative with
  | false => exact h.blank
  | true =>
    intro c hc
    rcases List.mem_cons.1 hc with rfl | hc
    · rfl
    · exact h.blank c hc

end Decimal

namespace Finite64

open Decimal

/-! ## The text of a number -/

theorem decimalChars_ne_nil (n : Nat) : decimalChars n ≠ [] := Nat.toDigits_ne_nil

/-- The text with an exponent. -/
theorem spells_scientificChars (d : Decimal) :
    Spells (scientificChars (decimalChars d.digits)
      (((decimalChars d.digits).length : Int) + d.exponent - 1)) d := by
  have hdigits := isDigits_decimalChars d.digits
  have hvalue : Text.decimalValue (decimalChars d.digits) = d.digits :=
    Text.decimalValue_toDigits _
  unfold scientificChars
  cases hds : decimalChars d.digits with
  | nil => exact absurd hds (decimalChars_ne_nil _)
  | cons c rest =>
    rw [hds] at hdigits hvalue
    have hc : IsDigits [c] := fun x hx => hdigits x (by simp_all)
    cases rest with
    | nil =>
      refine Spells.unpointed hc (by simp) (.given _) ?_
      rw [hvalue, List.length_singleton]
      have he : ((1 : Nat) : Int) + d.exponent - 1 = d.exponent := by omega
      rw [he]
      exact .refl d
    | cons c' rest =>
      have hrest : IsDigits (c' :: rest) := fun x hx => hdigits x (List.mem_cons_of_mem _ hx)
      refine Spells.point hc hrest (by simp) (.given _) ?_
      rw [List.singleton_append, hvalue]
      have he : ((c :: c' :: rest).length : Int) + d.exponent - 1 - (c' :: rest).length =
          d.exponent := by
        simp only [List.length_cons]
        omega
      rw [he]
      exact .refl d

/-- The text of a magnitude denotes the decimal chosen for it. -/
theorem spells_magnitudeChars {x : Finite64} (hx : x.code ≠ 0) :
    Spells x.magnitudeChars x.shortest := by
  unfold magnitudeChars
  rw [if_neg hx]
  generalize x.shortest = d
  have hdigits := isDigits_decimalChars d.digits
  have hvalue : Text.decimalValue (decimalChars d.digits) = d.digits :=
    Text.decimalValue_toDigits _
  have hne := decimalChars_ne_nil d.digits
  dsimp only
  split
  · next h =>
    -- zeros up to the point, and one after it
    simp only [Bool.and_eq_true, decide_eq_true_eq] at h
    have hvalue' : Text.decimalValue (decimalChars d.digits ++
        List.replicate d.exponent.toNat '0' ++ ['0']) = 10 ^ (d.exponent.toNat + 1) * d.digits := by
      rw [List.append_assoc, ← List.replicate_succ', Text.decimalValue_append_zeros, hvalue]
    have hagrees : Agrees ⟨10 ^ (d.exponent.toNat + 1) * d.digits, 0 - ['0'].length⟩ d := by
      have hnum : (0 - (['0'].length : Int)).toNat = 0 := rfl
      have hden : (-(0 - (['0'].length : Int))).toNat = 1 := rfl
      have hneg : (-d.exponent).toNat = 0 := by omega
      unfold Agrees numerator denominator
      rw [hnum, hden, hneg]
      ring
    exact Spells.point (hdigits.append (isDigits_zeros _)) (isDigits_zeros 1) (by simp [hne])
      .absent (hvalue' ▸ hagrees)
  · next hno =>
    simp only [Bool.and_eq_true, decide_eq_true_eq, not_and, Int.not_le] at hno
    split
    · next h =>
      -- the point stands among the digits
      simp only [Bool.and_eq_true, decide_eq_true_eq] at h
      generalize hpoint : ((decimalChars d.digits).length : Int) + d.exponent = point at h hno ⊢
      have hagrees : Agrees ⟨Text.decimalValue ((decimalChars d.digits).take point.toNat ++
          (decimalChars d.digits).drop point.toNat),
          0 - ((decimalChars d.digits).drop point.toNat).length⟩ d := by
        have he : 0 - (((decimalChars d.digits).drop point.toNat).length : Int) = d.exponent := by
          rw [List.length_drop]
          omega
        rw [List.take_append_drop, hvalue, he]
        exact .refl d
      have hspells := Spells.point (fun c hc => hdigits c (List.mem_of_mem_take hc))
        (fun c hc => hdigits c (List.mem_of_mem_drop hc)) (by simp [hne]; omega) .absent hagrees
      rwa [List.append_nil] at hspells
    · split
      · next h =>
        -- zeros between the point and the digits
        simp only [Bool.and_eq_true, decide_eq_true_eq] at h
        generalize hpoint : ((decimalChars d.digits).length : Int) + d.exponent = point at h hno ⊢
        have hagrees : Agrees ⟨Text.decimalValue (List.replicate 1 '0' ++
            (List.replicate (-point).toNat '0' ++ decimalChars d.digits)),
            0 - (List.replicate (-point).toNat '0' ++ decimalChars d.digits).length⟩ d := by
          have he : 0 - ((List.replicate (-point).toNat '0' ++
              decimalChars d.digits).length : Int) = d.exponent := by
            rw [List.length_append, List.length_replicate]
            omega
          rw [Text.decimalValue_zeros_append, Text.decimalValue_zeros_append, hvalue, he]
          exact .refl d
        have hspells := Spells.point (isDigits_zeros 1)
          ((isDigits_zeros (-point).toNat).append hdigits) (by simp) .absent hagrees
        rwa [List.append_nil] at hspells
      · exact spells_scientificChars d

theorem chars_eq_signed (x : Finite64) : x.chars = signed x.negative x.magnitudeChars := rfl

/-- The decimal that the text of a number denotes. -/
theorem exists_spells (x : Finite64) :
    ∃ d, Spells x.magnitudeChars d ∧ ∀ negative, d.nearest negative =
      .finite { x with negative := negative } := by
  by_cases hx : x.code = 0
  · refine ⟨⟨0, -1⟩, ?_, fun negative => ?_⟩
    · unfold magnitudeChars
      rw [if_pos hx]
      exact Spells.point (isDigits_zeros 1) (isDigits_zeros 1) (by simp) .absent (.refl _)
    · obtain ⟨n, c, hc⟩ := x
      cases hx
      rfl
  · exact ⟨x.shortest, spells_magnitudeChars hx, nearest_shortest hx⟩

/-- A number is read back from its text. -/
theorem read?_chars (x : Finite64) : Binary64.read? x.chars = some (.finite x) := by
  obtain ⟨d, hspells, hd⟩ := x.exists_spells
  rw [chars_eq_signed, hspells.read?_signed, hd]

end Finite64

/-! ## Whole numbers -/

/-- Whether a whole number has at most 53 binary digits, zeros at the end not counted. -/
def IsExact (i : Int) : Prop := ∃ m e, i.natAbs = m * 2 ^ e ∧ m < 2 ^ 53

theorem two_mul_fractionCount : 2 * fractionCount = 2 ^ 53 := by decide

theorem natAbs_of_whole? {x : Finite64} {i : Int} (h : x.whole? = some i) :
    i.natAbs * quantaPerUnit = x.quanta := by
  unfold Finite64.whole? at h
  split at h
  · next hmod =>
    have habs : i.natAbs = x.quanta / quantaPerUnit := by
      rw [← Option.some.inj h]
      split
      · rw [Int.natAbs_neg, Int.natAbs_natCast]
      · rw [Int.natAbs_natCast]
    rw [habs]
    exact Nat.div_mul_cancel (Nat.dvd_of_mod_eq_zero hmod)
  · cases h

/-- The whole numbers among the numbers of 53 digits. -/
theorem IsExact.of_whole? {x : Finite64} {i : Int} (h : x.whole? = some i) : IsExact i := by
  have hquanta := natAbs_of_whole? h
  obtain ⟨places, hplaces⟩ := exists_quantaPerUnit_eq
  obtain ⟨m, e, hm, hlt⟩ := codeQuanta_eq_mul x.code
  rw [Finite64.quanta, hm, hplaces] at hquanta
  rw [two_mul_fractionCount] at hlt
  by_cases he : places ≤ e
  · obtain ⟨more, rfl⟩ := Nat.exists_eq_add_of_le he
    refine ⟨m, more, ?_, hlt⟩
    rw [Nat.pow_add, Nat.mul_comm (2 ^ places), ← Nat.mul_assoc] at hquanta
    exact Nat.eq_of_mul_eq_mul_right (Nat.two_pow_pos _) hquanta
  · -- the spacing is finer than one, so the digits hold the whole number with room to spare
    obtain ⟨less, rfl⟩ := Nat.exists_eq_add_of_le (Nat.le_of_not_le he)
    refine ⟨i.natAbs, 0, (Nat.mul_one _).symm, Nat.lt_of_le_of_lt ?_ hlt⟩
    rw [Nat.mul_comm, Nat.pow_add, Nat.mul_assoc, Nat.mul_comm m] at hquanta
    rw [← Nat.eq_of_mul_eq_mul_left (Nat.two_pow_pos _) hquanta]
    exact Nat.le_mul_of_pos_left _ (Nat.two_pow_pos _)

theorem whole?_of_quanta {x : Finite64} {n : Nat} (h : x.quanta = n * quantaPerUnit) :
    x.whole? = some (if x.negative then -(n : Int) else n) := by
  unfold Finite64.whole?
  rw [h, Nat.mul_mod_left, if_pos rfl, Nat.mul_div_cancel _ quantaPerUnit_pos]

/-- A whole number that fits is represented exactly. -/
theorem exists_ofFraction_of_isExact {n : Nat} (negative : Bool) (h : IsExact n)
    (hn : n < 2 ^ 63) : ∃ x : Finite64, Binary64.ofFraction negative n 1 = .finite x ∧
      x.negative = negative ∧ x.quanta = n * quantaPerUnit := by
  obtain ⟨m, e, hm, hlt⟩ := h
  rw [Int.natAbs_natCast] at hm
  rw [← two_mul_fractionCount] at hlt
  obtain ⟨places, hplaces⟩ := exists_quantaPerUnit_eq
  obtain ⟨c, hc⟩ := exists_codeQuanta m (e + places) hlt
  have hquanta : codeQuanta c = n * quantaPerUnit := by
    rw [hc, hm, hplaces, Nat.pow_add, Nat.mul_assoc]
  have hcode : c < infinityCode := by
    refine Nat.lt_trans (m := (1023 + 63) * fractionCount) ?_ (by decide)
    rw [← codeQuanta_strictMono.lt_iff_lt, hquanta, codeQuanta_pow, Nat.mul_comm quantaPerUnit]
    exact Nat.mul_lt_mul_of_pos_right hn quantaPerUnit_pos
  have hround : roundCode (n * quantaPerUnit) 1 = c := by
    rw [← hquanta, roundCode_codeQuanta hcode.le]
  exact ⟨⟨negative, c, hcode⟩, Binary64.ofQuanta_eq_finite hround hcode, rfl, hquanta⟩

/-- A whole number that fits is read as itself. -/
theorem whole?_ofFraction {n : Nat} (negative : Bool) (h : IsExact n) (hn : n < 2 ^ 63) :
    ∃ x, Binary64.ofFraction negative n 1 = .finite x ∧
      x.whole? = some (if negative then -(n : Int) else n) := by
  obtain ⟨x, hx, hsign, hquanta⟩ := exists_ofFraction_of_isExact negative h hn
  refine ⟨x, hx, ?_⟩
  rw [whole?_of_quanta hquanta, hsign]

/-- The product with a whole number of at most 53 digits is rounded once. -/
theorem Binary64.ofNat_mul {n : Nat} {w : Finite64} (hn : n < 2 ^ 53) (hw : w.negative = false) :
    (ofNat n).mul (.finite w) = ofQuanta false (n * w.quanta) 1 := by
  have hexact : IsExact n := ⟨n, 0, by simp, hn⟩
  obtain ⟨x, hx, hsign, hquanta⟩ :=
    exists_ofFraction_of_isExact false hexact (hn.trans (by decide))
  have hround : roundCode (n * quantaPerUnit * w.quanta) quantaPerUnit =
      roundCode (n * w.quanta) 1 :=
    roundCode_congr quantaPerUnit_pos Nat.one_pos (by ring)
  have hofNat : ofNat n = .finite x := hx
  rw [hofNat, mul, hsign, hw, hquanta]
  unfold ofQuanta
  rw [hround]
  rfl

/-- A whole number is not read as a number below a code that it is not below. -/
theorem le_quanta_of_ofFraction {negative : Bool} {n c : Nat} {x : Finite64}
    (hx : Binary64.ofFraction negative n 1 = .finite x) (hc : c ≤ infinityCode)
    (hn : codeQuanta c ≤ n * quantaPerUnit) : codeQuanta c ≤ x.quanta := by
  have hcode : x.code = roundCode (n * quantaPerUnit) 1 := by
    unfold Binary64.ofFraction Binary64.ofQuanta at hx
    dsimp only at hx
    split at hx
    · cases hx
      rfl
    · cases hx
  rw [Finite64.quanta, hcode]
  refine codeQuanta_strictMono.monotone (le_roundCode Nat.one_pos hc ?_)
  rwa [Nat.one_mul]

/-- A large number is not read as one below it. -/
theorem large_of_ofFraction {negative : Bool} {n : Nat} {x : Finite64} (hn : 2 ^ 63 ≤ n)
    (hx : Binary64.ofFraction negative n 1 = .finite x) {i : Int} (hi : x.whole? = some i) :
    2 ^ 63 ≤ i.natAbs := by
  have hquanta : quantaPerUnit * 2 ^ 63 ≤ x.quanta := by
    rw [← codeQuanta_pow]
    refine le_quanta_of_ofFraction hx (by decide) ?_
    rw [codeQuanta_pow, Nat.mul_comm n]
    exact Nat.mul_le_mul_left _ hn
  rw [← natAbs_of_whole? hi, Nat.mul_comm i.natAbs] at hquanta
  exact Nat.le_of_mul_le_mul_left hquanta quantaPerUnit_pos

end AccelForm
