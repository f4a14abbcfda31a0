import AccelForm.Binary64.Reading
import AccelForm.Proofs.Binary64.Rounding
import AccelForm.Proofs.Text.Numeral
/-
  Decimals and the numbers nearest to them

  A decimal is read as the fraction that it denotes, rounded once; that very
  small and very large ones are decided by their number of digits alone makes
  no difference (`nearest_eq_ofFraction`). So two decimals that denote the same
  fraction are read as the same number. The decimal chosen for a number lies
  among the reals that round to the number, whichever grid it was found on,
  and therefore is read as that number again (`nearest_shortest`).
-/

namespace AccelForm

/-! ## Quanta -/

/-- The row of the number one; its index is named so that no power of it is computed. -/
theorem exists_unit_row : ∃ d, d = 1022 ∧ quantaPerUnit = fractionCount * 2 ^ d :=
  ⟨1022, rfl, by decide +kernel⟩

theorem exists_quantaPerUnit_eq : ∃ places, quantaPerUnit = 2 ^ places := by
  obtain ⟨d, _, hunit⟩ := exists_unit_row
  exact ⟨52 + d, by rw [hunit, fractionCount_eq, ← Nat.pow_add]⟩

theorem quantaPerUnit_pos : 0 < quantaPerUnit := by
  obtain ⟨d, _, hunit⟩ := exists_unit_row
  rw [hunit]
  exact Nat.mul_pos fractionCount_pos (Nat.two_pow_pos d)

/-- The codes of one, two, four and so on. -/
theorem codeQuanta_pow (e : Nat) :
    codeQuanta ((1023 + e) * fractionCount) = quantaPerUnit * 2 ^ e := by
  obtain ⟨d, hd, hunit⟩ := exists_unit_row
  have hrow : (1023 + e) * fractionCount = (d + e) * fractionCount + fractionCount := by
    rw [hd]
    ring
  rw [hrow, codeQuanta_row (by omega) (.inr (Nat.le_refl _)), hunit, Nat.pow_add, Nat.mul_assoc]

theorem codeQuanta_one : codeQuanta (1023 * fractionCount) = quantaPerUnit := by
  have hone := codeQuanta_pow 0
  generalize quantaPerUnit = unit at hone ⊢
  rwa [Nat.pow_zero, Nat.mul_one] at hone

theorem two_mul_quantaPerUnit_le : 2 * quantaPerUnit ≤ 10 ^ 400 := by decide +kernel

theorem codeQuanta_infinityCode_le : codeQuanta infinityCode ≤ 10 ^ 400 * quantaPerUnit := by
  decide +kernel

namespace Binary64

theorem ofQuanta_eq_finite {negative : Bool} {num den c : Nat} (h : roundCode num den = c)
    (hc : c < infinityCode) : ofQuanta negative num den = .finite ⟨negative, c, hc⟩ := by
  subst h
  rw [ofQuanta, dif_pos hc]

theorem ofQuanta_eq_infinite {negative : Bool} {num den : Nat}
    (h : infinityCode ≤ roundCode num den) : ofQuanta negative num den = .infinite negative := by
  rw [ofQuanta, dif_neg (by omega)]

/-- Reading a fraction as a number sees its value alone. -/
theorem ofFraction_congr {negative : Bool} {num den num' den' : Nat} (hden : 0 < den)
    (hden' : 0 < den') (h : num * den' = num' * den) :
    ofFraction negative num den = ofFraction negative num' den' := by
  have hcode : roundCode (num * quantaPerUnit) den = roundCode (num' * quantaPerUnit) den' := by
    refine roundCode_congr hden hden' ?_
    calc num * quantaPerUnit * den' = num * den' * quantaPerUnit := by ring
      _ = num' * quantaPerUnit * den := by rw [h]; ring
  unfold ofFraction ofQuanta
  rw [hcode]

end Binary64

namespace Decimal

def numerator (d : Decimal) : Nat := d.digits * 10 ^ d.exponent.toNat

def denominator (d : Decimal) : Nat := 10 ^ (-d.exponent).toNat

theorem denominator_pos (d : Decimal) : 0 < d.denominator := Nat.pow_pos (by decide)

/-- Whether two decimals denote the same fraction. -/
def Agrees (d e : Decimal) : Prop := d.numerator * e.denominator = e.numerator * d.denominator

theorem Agrees.refl (d : Decimal) : d.Agrees d := rfl

/-! ## Very small and very large decimals -/

variable {negative : Bool} {d : Decimal}

theorem ofFraction_of_small (h : d.digits = 0 ∨
    ((Finite64.decimalChars d.digits).length : Int) + d.exponent < -exponentReach) :
    Binary64.ofFraction negative d.numerator d.denominator =
      .finite { Finite64.zero with negative := negative } := by
  have hden := d.denominator_pos
  refine Binary64.ofQuanta_eq_finite (roundCode_eq hden (by decide) (.inl rfl) ?_) _
  have hsmall : 2 * (d.numerator * quantaPerUnit) ≤ d.denominator := by
    rcases h with h | h
    · rw [numerator, h, Nat.zero_mul, Nat.zero_mul, Nat.mul_zero]
      omega
    · have hlt := (Text.pow_length_toDigits d.digits).1
      rw [← Finite64.decimalChars] at hlt
      generalize hlength : (Finite64.decimalChars d.digits).length = length at h hlt
      unfold exponentReach at h
      have hexp : d.exponent.toNat = 0 := by omega
      obtain ⟨more, hmore⟩ : ∃ more, (-d.exponent).toNat = length + 400 + more :=
        ⟨(-d.exponent).toNat - length - 400, by omega⟩
      rw [numerator, denominator, hexp, hmore, Nat.pow_zero, Nat.mul_one]
      calc 2 * (d.digits * quantaPerUnit) = d.digits * (2 * quantaPerUnit) := by ring
        _ ≤ 10 ^ length * 10 ^ 400 := Nat.mul_le_mul hlt.le two_mul_quantaPerUnit_le
        _ ≤ 10 ^ length * 10 ^ 400 * 10 ^ more :=
            Nat.le_mul_of_pos_right _ (Nat.pow_pos (by decide))
        _ = 10 ^ (length + 400 + more) := by rw [Nat.pow_add, Nat.pow_add]
  unfold PastCode
  rw [codeQuanta_zero, show codeQuanta (0 + 1) = 1 from by decide]
  rintro (h | ⟨_, h⟩)
  · omega
  · cases h

theorem ofFraction_of_large (hdigits : d.digits ≠ 0)
    (h : exponentReach < ((Finite64.decimalChars d.digits).length : Int) + d.exponent) :
    Binary64.ofFraction negative d.numerator d.denominator = .infinite negative := by
  have hden := d.denominator_pos
  refine Binary64.ofQuanta_eq_infinite (le_roundCode hden (Nat.le_refl _) ?_)
  have hge := (Text.pow_length_toDigits d.digits).2 hdigits
  rw [← Finite64.decimalChars] at hge
  generalize (Finite64.decimalChars d.digits).length = length at h hge
  unfold exponentReach at h
  have hpow : d.denominator * 10 ^ 400 ≤ d.numerator := by
    rw [numerator, denominator, ← Nat.pow_add]
    calc 10 ^ ((-d.exponent).toNat + 400) ≤ 10 ^ (length - 1 + d.exponent.toNat) :=
          Nat.pow_le_pow_right (by decide) (by omega)
      _ = 10 ^ (length - 1) * 10 ^ d.exponent.toNat := Nat.pow_add _ _ _
      _ ≤ d.digits * 10 ^ d.exponent.toNat := Nat.mul_le_mul_right _ hge
  calc d.denominator * codeQuanta infinityCode
      ≤ d.denominator * (10 ^ 400 * quantaPerUnit) :=
        Nat.mul_le_mul_left _ codeQuanta_infinityCode_le
    _ = d.denominator * 10 ^ 400 * quantaPerUnit := (Nat.mul_assoc _ _ _).symm
    _ ≤ d.numerator * quantaPerUnit := Nat.mul_le_mul_right _ hpow

/-- A decimal is read as its fraction, rounded once. -/
theorem nearest_eq_ofFraction (negative : Bool) (d : Decimal) :
    nearest negative d = Binary64.ofFraction negative d.numerator d.denominator := by
  unfold nearest
  dsimp only
  split
  · next h =>
    rw [ofFraction_of_small (by simpa using h)]
  · next hsmall =>
    split
    · next h =>
      simp only [Bool.or_eq_true, decide_eq_true_eq, not_or] at hsmall
      rw [ofFraction_of_large hsmall.1 h]
    · split
      · next h =>
        have hexp : (-d.exponent).toNat = 0 := by omega
        rw [numerator, denominator, hexp]
        rfl
      · next h =>
        have hexp : d.exponent.toNat = 0 := by omega
        rw [numerator, denominator, hexp, Nat.pow_zero, Nat.mul_one]
        rfl

theorem Agrees.nearest_eq {d e : Decimal} (h : d.Agrees e) (negative : Bool) :
    nearest negative d = nearest negative e := by
  rw [nearest_eq_ofFraction, nearest_eq_ofFraction]
  exact Binary64.ofFraction_congr d.denominator_pos e.denominator_pos h

end Decimal

namespace Finite64

/-! ## The decimal chosen for a number -/

section Grid
variable {x : Finite64} {scale unit below rest : Nat} (hx : x.code ≠ 0) (hscale : 0 < scale)
  (hsum : unit * below + rest = x.quanta * scale)

include hx hscale hsum

/-- The grid point at or below a number, if it is at the number or above the midpoint below. -/
theorem roundCode_below (h : rest = 0 ∨ x.lowerEnd * scale < 2 * below * unit ∨
    x.code % 2 = 0 ∧ x.lowerEnd * scale = 2 * below * unit) :
    roundCode (below * unit) scale = x.code := by
  have hprev : codeQuanta (x.code - 1) < codeQuanta x.code :=
    codeQuanta_strictMono (Nat.sub_lt (Nat.pos_of_ne_zero hx) Nat.one_pos)
  have hnext := codeQuanta_lt_succ x.code
  unfold quanta at hsum
  refine roundCode_eq hscale x.code_lt (.inr ?_) ?_
  · unfold PastCode
    rw [Nat.sub_add_cancel (Nat.pos_of_ne_zero hx), Nat.mul_comm scale, ← lowerEnd]
    rcases h with h | h | ⟨heven, h⟩
    · left
      unfold lowerEnd
      nlinarith
    · left
      linarith
    · right
      exact ⟨by linarith, by omega⟩
  · rintro (h | ⟨h, _⟩) <;> nlinarith

/-- The grid point above a number, if it is below the midpoint above. -/
theorem roundCode_above (hrest : rest < unit) (h : 2 * (below + 1) * unit < x.upperEnd * scale ∨
    x.code % 2 = 0 ∧ 2 * (below + 1) * unit = x.upperEnd * scale) :
    roundCode ((below + 1) * unit) scale = x.code := by
  have hprev : codeQuanta (x.code - 1) < codeQuanta x.code :=
    codeQuanta_strictMono (Nat.sub_lt (Nat.pos_of_ne_zero hx) Nat.one_pos)
  unfold quanta at hsum
  refine roundCode_eq hscale x.code_lt (.inr (.inl ?_)) ?_
  · rw [Nat.sub_add_cancel (Nat.pos_of_ne_zero hx)]
    nlinarith
  · unfold PastCode
    rw [Nat.mul_comm scale, ← upperEnd]
    rcases h with h | ⟨heven, h⟩
    · rintro (hpast | ⟨hpast, _⟩) <;> linarith
    · rintro (hpast | ⟨_, hodd⟩)
      · linarith
      · omega

end Grid

/-- A point of a decimal grid that stands for a number is rounded to the number. -/
theorem roundCode_gridPoint {x : Finite64} (hx : x.code ≠ 0) {k : Int} {d : Nat}
    (h : x.gridPoint? k = some d) :
    roundCode (d * (10 ^ k.toNat * quantaPerUnit)) (10 ^ (-k).toNat) = x.code := by
  have hscale : 0 < 10 ^ (-k).toNat := Nat.pow_pos (by decide)
  have hunit : 0 < 10 ^ k.toNat * quantaPerUnit :=
    Nat.mul_pos (Nat.pow_pos (by decide)) quantaPerUnit_pos
  unfold gridPoint? at h
  rw [Nat.pow_eq, Nat.pow_eq] at h
  generalize 10 ^ (-k).toNat = scale at hscale h ⊢
  generalize 10 ^ k.toNat * quantaPerUnit = unit at hunit h ⊢
  dsimp only at h
  have hsum := Nat.div_add_mod (x.quanta * scale) unit
  have hrest := Nat.mod_lt (x.quanta * scale) hunit
  generalize x.quanta * scale / unit = below at hsum h
  generalize x.quanta * scale % unit = rest at hsum hrest h
  have hbelow := roundCode_below hx hscale hsum
  have habove := roundCode_above hx hscale hsum hrest
  simp only [Bool.or_eq_true, Bool.and_eq_true, beq_iff_eq, decide_eq_true_eq, or_assoc] at h
  split at h
  · next hboth =>
    split at h
    · rw [← Option.some.inj h]
      exact hbelow hboth.1
    · split at h
      · rw [← Option.some.inj h]
        exact habove hboth.2
      · -- the even one of the two points
        rw [← Option.some.inj h]
        rcases Nat.mod_two_eq_zero_or_one below with heven | hodd
        · rw [heven, Nat.add_zero]
          exact hbelow hboth.1
        · rw [hodd]
          exact habove hboth.2
  · split at h
    · next hreach =>
      rw [← Option.some.inj h]
      exact hbelow hreach
    · split at h
      · next hreach =>
        rw [← Option.some.inj h]
        exact habove hreach
      · cases h

/-- On the grid of 10 ^ -1074 a quantum is a point. -/
theorem pow_five_mul_quantaPerUnit :
    Nat.pow 5 1074 * quantaPerUnit = 10 ^ (-(-1074 : Int)).toNat := by decide +kernel

/-- Wherever the search for a grid ends, the decimal found is rounded to the number. -/
theorem roundCode_coarsest {x : Finite64} (hx : x.code ≠ 0) (k : Int) (steps : Nat) :
    roundCode ((x.coarsest k steps).numerator * quantaPerUnit) (x.coarsest k steps).denominator =
      x.code := by
  induction steps generalizing k with
  | zero =>
    -- on the last grid the number itself is a point
    have hnum : (x.coarsest k 0).numerator = x.quanta * Nat.pow 5 1074 := Nat.mul_one _
    have hden : (x.coarsest k 0).denominator = 10 ^ (-(-1074 : Int)).toNat := rfl
    rw [hnum, hden, Nat.mul_assoc, pow_five_mul_quantaPerUnit]
    generalize (-(-1074 : Int)).toNat = places
    calc roundCode (x.quanta * 10 ^ places) (10 ^ places) = roundCode (codeQuanta x.code) 1 :=
          roundCode_congr (Nat.pow_pos (by decide)) Nat.one_pos (Nat.mul_one _)
      _ = x.code := roundCode_codeQuanta x.code_lt.le
  | succ steps ih =>
    rw [coarsest]
    split
    · next d hd =>
      have hgrid := roundCode_gridPoint hx hd
      rwa [← Nat.mul_assoc] at hgrid
    · exact ih (k - 1)

/-- The decimal chosen for a number is read as that number. -/
theorem nearest_shortest {x : Finite64} (hx : x.code ≠ 0) (negative : Bool) :
    x.shortest.nearest negative = .finite { x with negative := negative } := by
  rw [Decimal.nearest_eq_ofFraction]
  exact Binary64.ofQuanta_eq_finite (roundCode_coarsest hx 309 1383) x.code_lt

end Finite64

end AccelForm
