import AccelForm.Proofs.Binary64.Nearest
/-
  Fractions that fall a little short

  A rounded product of a whole number and a rounded constant is the rounding of
  a fraction that is a little below the one that was meant. Two things are
  known of it. Fractions that differ by one part in 2 ^ 52 are still told apart
  (`roundCode_lt_of_gap`). And a third of a number of few digits, less some
  256 parts of 2 ^ 62, is rounded to the code of the third rounded down,
  wherever in this range the shortfall lies (`roundCode_third`): it is enough to
  bring a remainder of two thirds of the spacing below one half, and too little
  to bring a remainder of zero below the midpoint before it.
-/

namespace AccelForm

/-! ## Fractions that are far enough apart -/

/-- The next magnitude is larger by at most one part in 2 ^ 52, or by one quantum. -/
theorem codeQuanta_succ_le (c : Nat) :
    2 ^ 52 * codeQuanta (c + 1) ≤ (2 ^ 52 + 1) * codeQuanta c + 2 ^ 52 := by
  obtain ⟨d, q, rfl, hq, hd⟩ := exists_row c
  rw [Nat.add_assoc, codeQuanta_row hq.le hd, codeQuanta_row (by omega) (by omega)]
  rw [fractionCount_eq] at hd
  obtain rfl | hfull := hd
  · omega
  · have hspacing : 2 ^ 52 * 2 ^ d ≤ q * 2 ^ d := Nat.mul_le_mul_right _ hfull
    calc 2 ^ 52 * ((q + 1) * 2 ^ d) = 2 ^ 52 * (q * 2 ^ d) + 2 ^ 52 * 2 ^ d := by ring
      _ ≤ 2 ^ 52 * (q * 2 ^ d) + q * 2 ^ d := Nat.add_le_add_left hspacing _
      _ = (2 ^ 52 + 1) * (q * 2 ^ d) := by ring
      _ ≤ (2 ^ 52 + 1) * (q * 2 ^ d) + 2 ^ 52 := Nat.le_add_right _ _

/-- Rounding tells fractions apart that differ by one part in 2 ^ 52, and by one quantum. -/
theorem roundCode_lt_of_gap {num num' den : Nat} (hden : 0 < den)
    (hfinite : roundCode num den < infinityCode)
    (hgap : (2 ^ 52 + 1) * num + 2 ^ 52 * den < 2 ^ 52 * num') :
    roundCode num den < roundCode num' den := by
  refine (lt_roundCode_iff hden hfinite).2 (.inl ?_)
  generalize hcode : roundCode num den = c at hfinite ⊢
  cases c with
  | zero =>
    rw [codeQuanta_zero, show codeQuanta (0 + 1) = 1 from by decide]
    omega
  | succ c =>
    -- the fraction is not below the midpoint before its code
    have hpast : PastCode num den c := (lt_roundCode_iff hden (by omega)).1 (by omega)
    have hmid : den * (codeQuanta c + codeQuanta (c + 1)) ≤ 2 * num := by
      obtain hlt | ⟨heq, _⟩ := hpast <;> omega
    have hnext := codeQuanta_succ_le c
    have hnext' := codeQuanta_succ_le (c + 1)
    generalize codeQuanta c = x at hmid hnext
    generalize codeQuanta (c + 1) = y at hmid hnext hnext' ⊢
    generalize codeQuanta (c + 1 + 1) = z at hnext' ⊢
    have hsum : 2 ^ 52 * (y + z) ≤ (2 ^ 52 + 1) * (x + y) + 2 ^ 53 := by omega
    have hscaled : 2 ^ 52 * (den * (y + z)) ≤
        (2 ^ 52 + 1) * (den * (x + y)) + 2 ^ 53 * den := by
      calc 2 ^ 52 * (den * (y + z)) = den * (2 ^ 52 * (y + z)) := by ring
        _ ≤ den * ((2 ^ 52 + 1) * (x + y) + 2 ^ 53) := Nat.mul_le_mul_left den hsum
        _ = (2 ^ 52 + 1) * (den * (x + y)) + 2 ^ 53 * den := by ring
    omega

/-! ## Rounding down -/

/-- The code of a fraction rounded down. -/
structure RoundsDown (num den c : Nat) : Prop where
  le : den * codeQuanta c ≤ num
  lt : num < den * codeQuanta (c + 1)

theorem exists_roundsDown (num : Nat) {den : Nat} (hden : 0 < den) : ∃ c, RoundsDown num den c := by
  have hbound : ∀ c, den * codeQuanta c ≤ num → c ≤ num := by
    intro c hc
    calc c ≤ codeQuanta c := codeQuanta_strictMono.le_apply
      _ ≤ den * codeQuanta c := Nat.le_mul_of_pos_left _ hden
      _ ≤ num := hc
  have hzero : den * codeQuanta 0 ≤ num := by
    rw [codeQuanta_zero, Nat.mul_zero]
    exact Nat.zero_le num
  refine ⟨Nat.findGreatest (fun c => den * codeQuanta c ≤ num) num, ?_, ?_⟩
  · exact Nat.findGreatest_spec (P := fun c => den * codeQuanta c ≤ num) (Nat.zero_le num) hzero
  · by_contra hno
    have hle : den * codeQuanta (Nat.findGreatest (fun c => den * codeQuanta c ≤ num) num + 1) ≤
        num := Nat.le_of_not_lt hno
    exact Nat.findGreatest_is_greatest (Nat.lt_succ_self _) (hbound _ hle) hle

theorem RoundsDown.eq_of_exact {den c c' : Nat} (h : RoundsDown (den * codeQuanta c') den c) :
    c = c' := by
  have hle : codeQuanta c ≤ codeQuanta c' := by
    by_contra hlt
    have hden : 0 < den := by
      by_contra hzero
      obtain rfl : den = 0 := by omega
      have hlt := h.lt
      omega
    exact Nat.lt_irrefl _ (Nat.lt_of_lt_of_le (Nat.mul_lt_mul_of_pos_left (by omega) hden) h.le)
  have hlt : codeQuanta c' < codeQuanta (c + 1) := Nat.lt_of_mul_lt_mul_left h.lt
  rw [codeQuanta_strictMono.le_iff_le] at hle
  rw [codeQuanta_strictMono.lt_iff_lt] at hlt
  omega

/-! ## Just below a code -/

/-- A fraction that falls short of the next magnitude by at most one part in 2 ^ 54 is past the
code. -/
theorem pastCode_of_shortfall {num den c : Nat} (hden : 0 < den)
    (h : den * codeQuanta (c + 1) * (2 ^ 54 - 1) ≤ num * 2 ^ 54) : PastCode num den c := by
  obtain ⟨d, q, rfl, hq, hd⟩ := exists_row c
  unfold PastCode
  rw [codeQuanta_midpoint hq hd, row_mod_two]
  rw [Nat.add_assoc, codeQuanta_row (by omega) (by omega)] at h
  rw [fractionCount_eq] at hq
  have hD : 0 < den * 2 ^ d := Nat.mul_pos hden (Nat.two_pow_pos d)
  have hmid : den * ((2 * q + 1) * 2 ^ d) = (2 * q + 1) * (den * 2 ^ d) := by ring
  have hnext : den * ((q + 1) * 2 ^ d) * (2 ^ 54 - 1) =
      (q + 1) * (2 ^ 54 - 1) * (den * 2 ^ d) := by ring
  rw [hmid]
  rw [hnext] at h
  generalize den * 2 ^ d = D at hD h ⊢
  obtain hlt | htop : q + 1 < 2 ^ 53 ∨ q + 1 = 2 ^ 53 := by omega
  · left
    have hfactor : (2 * q + 1) * 2 ^ 54 < 2 * ((q + 1) * (2 ^ 54 - 1)) := by omega
    have hscaled : (2 * q + 1) * 2 ^ 54 * D < 2 * ((q + 1) * (2 ^ 54 - 1)) * D :=
      Nat.mul_lt_mul_of_pos_right hfactor hD
    nlinarith
  · -- the next code begins a row, and the spacing before it is half the spacing behind it
    have hodd : q % 2 = 1 := by omega
    have hq' : 2 * q + 1 = 2 ^ 54 - 1 := by omega
    have hle : (2 ^ 54 - 1) * D ≤ 2 * num := by
      rw [htop] at h
      omega
    rw [hq']
    obtain hlt | heq := Nat.lt_or_eq_of_le hle
    · exact .inl hlt
    · exact .inr ⟨heq.symm, hodd⟩

/-! ## Thirds -/

/-- A third of a number of 53 digits is in no row above that of the number's last digit. -/
theorem row_le {m k d q : Nat} (hm : m < 2 ^ 53) (hd : d = 0 ∨ 2 ^ 52 ≤ q)
    (hle : 3 * (q * 2 ^ d) ≤ m * 2 ^ k) : d ≤ k := by
  by_contra hkd
  have hpow : 2 * 2 ^ k ≤ 2 ^ d := by
    rw [← Nat.pow_succ']
    exact Nat.pow_le_pow_right (by decide) (by omega)
  have hfull : 2 ^ 52 * 2 ^ d ≤ q * 2 ^ d := Nat.mul_le_mul_right _ (by omega)
  have hsmall : m * 2 ^ k ≤ 2 ^ 53 * 2 ^ k := Nat.mul_le_mul_right _ hm.le
  have hpos := Nat.two_pow_pos k
  omega

/-- A remainder of two thirds is brought below one half where the quotient is large. -/
theorem remainder_lt {a q short : Nat} (ha : a < 3 * (q + 1)) (hshort : 229 ≤ short)
    (hlarge : a = 3 * q + 2 → 2 ^ 52 ≤ q) :
    2 * (a * (2 ^ 62 - short)) < 3 * (2 * q + 1) * 2 ^ 62 := by
  obtain hlow | htwo : a ≤ 3 * q + 1 ∨ a = 3 * q + 2 := by omega
  · calc 2 * (a * (2 ^ 62 - short)) ≤ 2 * ((3 * q + 1) * 2 ^ 62) :=
          Nat.mul_le_mul_left 2 (Nat.mul_le_mul hlow (Nat.sub_le _ _))
      _ < 3 * (2 * q + 1) * 2 ^ 62 := by omega
  · have hfull := hlarge htwo
    calc 2 * (a * (2 ^ 62 - short)) ≤ 2 * ((3 * q + 2) * (2 ^ 62 - 229)) :=
          Nat.mul_le_mul_left 2 (Nat.mul_le_mul htwo.le (by omega))
      _ < 3 * (2 * q + 1) * 2 ^ 62 := by omega

section Third
variable {m k c num short : Nat} (hdown : RoundsDown (m * 2 ^ k) 3 c) (hm : m < 2 ^ 53)
  (hk : 54 ≤ k) (hshort : 229 ≤ short) (hnum : num * 2 ^ 62 = m * 2 ^ k * (2 ^ 62 - short))

include hdown hm hk hshort hnum

/-- The remainder of a third is at most two thirds of the spacing, so what falls short of it by 229
parts of 2 ^ 62 is below the midpoint. -/
theorem third_lt_midpoint : 2 * num < 3 * (codeQuanta c + codeQuanta (c + 1)) := by
  obtain ⟨d, q, rfl, hq, hd⟩ := exists_row c
  obtain ⟨hle, hlt⟩ := hdown
  rw [codeQuanta_midpoint hq hd]
  rw [codeQuanta_row hq.le hd] at hle
  rw [Nat.add_assoc, codeQuanta_row (by omega) (by omega)] at hlt
  rw [fractionCount_eq] at hq hd
  obtain ⟨j, rfl⟩ := Nat.exists_eq_add_of_le (row_le hm hd hle)
  -- in units of the spacing the number is whole, and so its third has a remainder of thirds
  have hwhole : m * 2 ^ (d + j) = m * 2 ^ j * 2 ^ d := by rw [Nat.pow_add]; ring
  have hlarge : m * 2 ^ j = 3 * q + 2 → 2 ^ 52 ≤ q := by
    intro ha
    obtain rfl | hfull := hd
    · rw [Nat.zero_add] at hk
      have hm0 : m ≠ 0 := by
        intro h0
        rw [h0, Nat.zero_mul] at ha
        omega
      have hj : 2 ^ 54 ≤ 2 ^ j := Nat.pow_le_pow_right (by decide) hk
      have hmj : 2 ^ j ≤ m * 2 ^ j := Nat.le_mul_of_pos_left _ (Nat.pos_of_ne_zero hm0)
      omega
    · exact hfull
  rw [hwhole] at hlt hnum
  have hD := Nat.two_pow_pos d
  generalize m * 2 ^ j = a at hlt hnum hlarge
  generalize 2 ^ d = D at hlt hnum hD ⊢
  have ha : a < 3 * (q + 1) := by
    refine Nat.lt_of_mul_lt_mul_right (a := D) ?_
    linarith
  have hscaled : 2 * num * 2 ^ 62 < 3 * ((2 * q + 1) * D) * 2 ^ 62 := by
    calc 2 * num * 2 ^ 62 = 2 * (num * 2 ^ 62) := by ring
      _ = 2 * (a * (2 ^ 62 - short)) * D := by rw [hnum]; ring
      _ < 3 * (2 * q + 1) * 2 ^ 62 * D :=
          Nat.mul_lt_mul_of_pos_right (remainder_lt ha hshort hlarge) hD
      _ = 3 * ((2 * q + 1) * D) * 2 ^ 62 := by ring
  exact Nat.lt_of_mul_lt_mul_right hscaled

/-- What falls short of a third by 229 to 256 parts of 2 ^ 62 is rounded to the code of the third
rounded down. -/
theorem roundCode_third (hshort' : short ≤ 256) (hc : c < infinityCode) :
    roundCode num 3 = c := by
  have hupper := third_lt_midpoint hdown hm hk hshort hnum
  refine roundCode_eq (by decide) hc ?_ ?_
  · cases c with
    | zero => exact .inl rfl
    | succ c =>
      refine .inr (pastCode_of_shortfall (by decide) ?_)
      have hle := hdown.le
      generalize m * 2 ^ k = e at hle hnum
      have hshare : e * (2 ^ 54 - 1) ≤ num * 2 ^ 54 := by
        refine Nat.le_of_mul_le_mul_right (c := 2 ^ 8) ?_ (by decide)
        calc e * (2 ^ 54 - 1) * 2 ^ 8 = e * (2 ^ 62 - 256) := by norm_num [Nat.mul_assoc]
          _ ≤ e * (2 ^ 62 - short) := Nat.mul_le_mul_left e (by omega)
          _ = num * 2 ^ 54 * 2 ^ 8 := by rw [← hnum]; ring
      rw [Nat.add_sub_cancel]
      exact (Nat.mul_le_mul_right _ hle).trans hshare
  · intro hpast
    obtain hlt | ⟨heq, _⟩ := hpast <;> omega

end Third

end AccelForm
