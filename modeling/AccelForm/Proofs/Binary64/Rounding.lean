import AccelForm.Binary64.Basic
import Mathlib.Tactic.Linarith
import Mathlib.Tactic.Ring
/-
  Rounding to the nearest code

  The codes count the magnitudes upward, and between two neighbours there is a
  midpoint. A fraction is rounded past a code exactly if it is past the
  midpoint to the next one, or at that midpoint while the code is odd
  (`lt_roundCode_iff`). All else about rounding follows: a fraction keeps its
  code when it is written with another denominator, the magnitude of a code is
  rounded to that code, and rounding is monotone.
-/

namespace AccelForm

/-! ## Magnitudes of codes -/

theorem fractionCount_pos : 0 < fractionCount := by decide

theorem fractionCount_eq : fractionCount = 2 ^ 52 := rfl

theorem even_fractionCount : fractionCount % 2 = 0 := by decide

/-- Codes come in rows of one spacing: in row `d` the code counts magnitudes of 53 digits. -/
theorem exists_row (c : Nat) :
    ∃ d q, c = d * fractionCount + q ∧ q < 2 * fractionCount ∧ (d = 0 ∨ fractionCount ≤ q) := by
  by_cases h : c < fractionCount
  · exact ⟨0, c, by omega, by omega, .inl rfl⟩
  · have hdiv := Nat.div_add_mod c fractionCount
    have hmod := Nat.mod_lt c fractionCount_pos
    have hpos : 0 < c / fractionCount := Nat.div_pos (by omega) fractionCount_pos
    obtain ⟨d, hd⟩ := Nat.exists_eq_succ_of_ne_zero hpos.ne'
    refine ⟨d, fractionCount + c % fractionCount, ?_, by omega, .inr (by omega)⟩
    rw [hd, Nat.succ_eq_add_one] at hdiv
    linarith

theorem codeQuanta_row {d q : Nat} (hq : q ≤ 2 * fractionCount) (hd : d = 0 ∨ fractionCount ≤ q) :
    codeQuanta (d * fractionCount + q) = q * 2 ^ d := by
  have hpos := fractionCount_pos
  -- the code of row `d` has exponent bits `e + 1` and fraction bits `m`
  have hcode : ∀ e m, m < fractionCount →
      codeQuanta ((e + 1) * fractionCount + m) = (fractionCount + m) * 2 ^ e := by
    intro e m hm
    have hdiv : ((e + 1) * fractionCount + m) / fractionCount = e + 1 := by
      rw [Nat.add_comm, Nat.add_mul_div_right _ _ hpos, Nat.div_eq_of_lt hm, Nat.zero_add]
    have hmod : ((e + 1) * fractionCount + m) % fractionCount = m := by
      rw [Nat.add_comm, Nat.add_mul_mod_self_right, Nat.mod_eq_of_lt hm]
    have hge : ¬(e + 1) * fractionCount + m < fractionCount := by
      rw [Nat.add_mul, Nat.one_mul]
      omega
    rw [codeQuanta, if_neg hge, hdiv, hmod, Nat.add_sub_cancel]
    rfl
  by_cases hsmall : q < fractionCount
  · have hd0 : d = 0 := by omega
    rw [hd0, Nat.zero_mul, Nat.zero_add, codeQuanta, if_pos hsmall]
    omega
  · by_cases htop : q = 2 * fractionCount
    · have hsum : d * fractionCount + q = (d + 1 + 1) * fractionCount + 0 := by rw [htop]; ring
      rw [hsum, hcode (d + 1) 0 hpos, htop]
      ring
    · have hsum : d * fractionCount + q = (d + 1) * fractionCount + (q - fractionCount) := by
        rw [Nat.add_mul, Nat.one_mul]
        omega
      rw [hsum, hcode d (q - fractionCount) (by omega), Nat.add_sub_of_le (by omega)]

theorem codeQuanta_lt_succ (c : Nat) : codeQuanta c < codeQuanta (c + 1) := by
  obtain ⟨d, q, rfl, hq, hd⟩ := exists_row c
  rw [Nat.add_assoc, codeQuanta_row (by omega) hd, codeQuanta_row (by omega) (by omega)]
  exact Nat.mul_lt_mul_of_pos_right (Nat.lt_succ_self q) (Nat.two_pow_pos d)

theorem codeQuanta_strictMono : StrictMono codeQuanta :=
  strictMono_nat_of_lt_succ codeQuanta_lt_succ

/-- Twice the midpoint between a code of row `d` and the next code. -/
theorem codeQuanta_midpoint {d q : Nat} (hq : q < 2 * fractionCount)
    (hd : d = 0 ∨ fractionCount ≤ q) :
    codeQuanta (d * fractionCount + q) + codeQuanta (d * fractionCount + q + 1) =
      (2 * q + 1) * 2 ^ d := by
  rw [Nat.add_assoc, codeQuanta_row hq.le hd, codeQuanta_row (by omega) (by omega)]
  ring

theorem row_mod_two (d q : Nat) : (d * fractionCount + q) % 2 = q % 2 := by
  have hrow := Nat.mul_mod d fractionCount 2
  rw [even_fractionCount, Nat.mul_zero, Nat.zero_mod] at hrow
  omega

theorem codeQuanta_zero : codeQuanta 0 = 0 := by decide

/-- Every magnitude of at most 53 digits has a code, whatever its spacing. -/
theorem exists_codeQuanta (m e : Nat) (hm : m < 2 * fractionCount) :
    ∃ c, codeQuanta c = m * 2 ^ e := by
  induction e generalizing m with
  | zero =>
    refine ⟨0 * fractionCount + m, ?_⟩
    rw [codeQuanta_row hm.le (.inl rfl)]
  | succ e ih =>
    by_cases h : fractionCount ≤ m
    · exact ⟨_, codeQuanta_row hm.le (.inr h)⟩
    · obtain ⟨c, hc⟩ := ih (2 * m) (by omega)
      exact ⟨c, by rw [hc]; ring⟩

/-- The magnitude of a code has at most 53 digits, up to its spacing. -/
theorem codeQuanta_eq_mul (c : Nat) :
    ∃ m e, codeQuanta c = m * 2 ^ e ∧ m < 2 * fractionCount := by
  obtain ⟨d, q, rfl, hq, hd⟩ := exists_row c
  exact ⟨q, d, codeQuanta_row hq.le hd, hq⟩

/-! ## Rounding a quotient -/

theorem lt_roundDiv_iff {num den k : Nat} (hden : 0 < den) :
    k < roundDiv num den ↔
      (2 * k + 1) * den < 2 * num ∨ 2 * num = (2 * k + 1) * den ∧ k % 2 = 1 := by
  have hsum := Nat.div_add_mod num den
  have hr := Nat.mod_lt num hden
  unfold roundDiv
  dsimp only
  generalize num / den = q at hsum ⊢
  generalize num % den = r at hsum hr ⊢
  subst hsum
  have hodd : (2 * k + 1) * den = 2 * (den * k) + den := by ring
  rw [hodd]
  rcases Nat.lt_trichotomy k q with h | rfl | h
  · have hk : den * k + den ≤ den * q := by
      calc den * k + den = den * (k + 1) := by ring
        _ ≤ den * q := Nat.mul_le_mul_left den h
    split
    · omega
    · split <;> omega
  · split
    · omega
    · split <;> omega
  · have hk : den * q + den ≤ den * k := by
      calc den * q + den = den * (q + 1) := by ring
        _ ≤ den * k := Nat.mul_le_mul_left den h
    split
    · omega
    · split <;> omega

/-! ## Rounding to a code -/

/-- The row in which a magnitude of `n` quanta is rounded. -/
theorem droppedDigits_row (n : Nat) :
    n < 2 * fractionCount * 2 ^ droppedDigits n ∧
      (droppedDigits n = 0 ∨ fractionCount * 2 ^ droppedDigits n ≤ n) := by
  rw [fractionCount_eq]
  unfold droppedDigits
  constructor
  · calc n < 2 ^ (n.log2 + 1) := Nat.lt_log2_self
      _ ≤ 2 ^ (53 + (n.log2 + 1 - 53)) := Nat.pow_le_pow_right (by decide) (by omega)
      _ = 2 * 2 ^ 52 * 2 ^ (n.log2 + 1 - 53) := by rw [Nat.pow_add, ← Nat.pow_succ']
  · by_cases h : n.log2 + 1 - 53 = 0
    · exact .inl h
    · refine .inr ?_
      have hn : n ≠ 0 := by
        rintro rfl
        simp at h
      calc 2 ^ 52 * 2 ^ (n.log2 + 1 - 53) = 2 ^ n.log2 := by
            rw [← Nat.pow_add]
            congr 1
            omega
        _ ≤ n := Nat.log2_self_le hn

/-- A fraction is past a code if it is past the midpoint to the next one, or at the midpoint while
the code is odd. -/
def PastCode (num den c : Nat) : Prop :=
  den * (codeQuanta c + codeQuanta (c + 1)) < 2 * num ∨
    2 * num = den * (codeQuanta c + codeQuanta (c + 1)) ∧ c % 2 = 1

/-- A fraction is rounded past a code exactly if it is past it. -/
theorem lt_roundCode_iff {num den c : Nat} (hden : 0 < den) (hc : c < infinityCode) :
    c < roundCode num den ↔ PastCode num den c := by
  obtain ⟨hupper, hlower⟩ := droppedDigits_row (num / den)
  unfold roundCode
  dsimp only
  generalize droppedDigits (num / den) = d at hupper hlower ⊢
  have hpow : 0 < 2 ^ d := Nat.two_pow_pos d
  rw [show Nat.pow 2 d = 2 ^ d from rfl, lt_min_iff, and_iff_left hc]
  have hD : 0 < den * 2 ^ d := Nat.mul_pos hden hpow
  have hlt : num < den * (2 * fractionCount * 2 ^ d) :=
    (Nat.div_lt_iff_lt_mul hden).1 hupper |>.trans_eq (Nat.mul_comm _ _)
  by_cases hrow : d * fractionCount ≤ c ∧ (d = 0 ∨ fractionCount ≤ c - d * fractionCount)
  · obtain ⟨hle, hrow⟩ := hrow
    obtain ⟨k, rfl⟩ := Nat.exists_eq_add_of_le hle
    rw [Nat.add_sub_cancel_left] at hrow
    rw [Nat.add_lt_add_iff_left, lt_roundDiv_iff hD, PastCode]
    by_cases htop : k < 2 * fractionCount
    · -- the code is in the row in which the fraction is rounded
      rw [codeQuanta_midpoint htop hrow, row_mod_two, Nat.mul_left_comm]
    · -- the code is past the row, and the fraction is not
      have hcode : 2 * fractionCount * 2 ^ d ≤ codeQuanta (d * fractionCount + k) := by
        rw [← codeQuanta_row (Nat.le_refl (2 * fractionCount)) (.inr (by omega))]
        exact codeQuanta_strictMono.monotone (by omega)
      have hnext := codeQuanta_lt_succ (d * fractionCount + k)
      have hleft : 2 * num < (2 * k + 1) * (den * 2 ^ d) := by
        have : 2 * fractionCount * (den * 2 ^ d) ≤ k * (den * 2 ^ d) :=
          Nat.mul_le_mul_right _ (by omega)
        nlinarith
      have hright : 2 * num < den * (codeQuanta (d * fractionCount + k) +
          codeQuanta (d * fractionCount + k + 1)) := by
        nlinarith
      constructor <;> rintro (h | ⟨h, _⟩) <;> omega
  · -- the code is before the row in which the fraction is rounded
    have hd : d ≠ 0 := by
      rintro rfl
      exact hrow ⟨by omega, .inl rfl⟩
    have hfraction : fractionCount * 2 ^ d ≤ num / den := hlower.resolve_left hd
    have hnum : den * (fractionCount * 2 ^ d) ≤ num := by
      rw [Nat.mul_comm]
      exact (Nat.le_div_iff_mul_le hden).1 hfraction
    have hcode : c + 1 ≤ d * fractionCount + fractionCount := by
      by_contra hno
      exact hrow ⟨by omega, .inr (by omega)⟩
    have hnext : codeQuanta (c + 1) ≤ fractionCount * 2 ^ d := by
      rw [← codeQuanta_row (by omega) (.inr (Nat.le_refl fractionCount))]
      exact codeQuanta_strictMono.monotone hcode
    have hquotient : fractionCount ≤ roundDiv num (den * 2 ^ d) := by
      by_contra hno
      have hnot : ¬ fractionCount - 1 < roundDiv num (den * 2 ^ d) := by omega
      have hk := mt (lt_roundDiv_iff hD).2 hnot
      have hpos := fractionCount_pos
      apply hk
      left
      have : (2 * (fractionCount - 1) + 1) * (den * 2 ^ d) < 2 * fractionCount * (den * 2 ^ d) :=
        Nat.mul_lt_mul_of_pos_right (by omega) hD
      nlinarith
    refine iff_of_true (by omega) (.inl ?_)
    have hc' := codeQuanta_lt_succ c
    nlinarith

theorem roundCode_le (num den : Nat) : roundCode num den ≤ infinityCode := Nat.min_le_right _ _

/-- Fractions that are past the same codes are rounded to the same code. -/
theorem roundCode_eq_of_iff {num den num' den' : Nat} (hden : 0 < den) (hden' : 0 < den')
    (h : ∀ c, PastCode num den c ↔ PastCode num' den' c) :
    roundCode num den = roundCode num' den' := by
  have hle := roundCode_le num den
  have hle' := roundCode_le num' den'
  rcases Nat.lt_trichotomy (roundCode num den) (roundCode num' den') with hlt | heq | hlt
  · have hc := (lt_roundCode_iff hden' (by omega)).1 hlt
    exact absurd ((lt_roundCode_iff hden (by omega)).2 ((h _).2 hc)) (Nat.lt_irrefl _)
  · exact heq
  · have hc := (lt_roundCode_iff hden (by omega)).1 hlt
    exact absurd ((lt_roundCode_iff hden' (by omega)).2 ((h _).1 hc)) (Nat.lt_irrefl _)

/-- Rounding sees the value of a fraction alone. -/
theorem roundCode_congr {num den num' den' : Nat} (hden : 0 < den) (hden' : 0 < den')
    (h : num * den' = num' * den) : roundCode num den = roundCode num' den' := by
  refine roundCode_eq_of_iff hden hden' fun c => ?_
  unfold PastCode
  generalize codeQuanta c + codeQuanta (c + 1) = mid
  have hlt : den * mid < 2 * num ↔ den' * mid < 2 * num' := by
    constructor
    · intro hlt
      have : den' * (den * mid) < den' * (2 * num) := Nat.mul_lt_mul_of_pos_left hlt hden'
      have : den * (den' * mid) < den * (2 * num') := by nlinarith
      exact Nat.lt_of_mul_lt_mul_left this
    · intro hlt
      have : den * (den' * mid) < den * (2 * num') := Nat.mul_lt_mul_of_pos_left hlt hden
      have : den' * (den * mid) < den' * (2 * num) := by nlinarith
      exact Nat.lt_of_mul_lt_mul_left this
  have heq : 2 * num = den * mid ↔ 2 * num' = den' * mid := by
    constructor
    · intro heq
      refine Nat.eq_of_mul_eq_mul_left hden ?_
      nlinarith
    · intro heq
      refine Nat.eq_of_mul_eq_mul_left hden' ?_
      nlinarith
  rw [hlt, heq]

/-- A fraction that is at least the magnitude of a code is not rounded below it. -/
theorem le_roundCode {num den c : Nat} (hden : 0 < den) (hc : c ≤ infinityCode)
    (h : den * codeQuanta c ≤ num) : c ≤ roundCode num den := by
  cases c with
  | zero => exact Nat.zero_le _
  | succ c =>
    refine (lt_roundCode_iff hden (by omega)).2 (.inl ?_)
    have := codeQuanta_lt_succ c
    nlinarith

/-- A fraction that is at most the magnitude of a code is not rounded above it. -/
theorem roundCode_le_of_le {num den c : Nat} (hden : 0 < den)
    (h : num ≤ den * codeQuanta c) : roundCode num den ≤ c := by
  by_contra hlt
  have hc : c < infinityCode := by
    have := roundCode_le num den
    omega
  have hpast : PastCode num den c := (lt_roundCode_iff hden hc).1 (by omega)
  have hnext := codeQuanta_lt_succ c
  rcases hpast with hpast | ⟨hpast, _⟩ <;> nlinarith

/-- The magnitude of a code is rounded to the code. -/
theorem roundCode_codeQuanta {c : Nat} (hc : c ≤ infinityCode) :
    roundCode (codeQuanta c) 1 = c := by
  have hle : roundCode (codeQuanta c) 1 ≤ c := roundCode_le_of_le (by decide) (by omega)
  have hge : c ≤ roundCode (codeQuanta c) 1 := le_roundCode (by decide) hc (by omega)
  omega

/-- The fraction is among the reals that round to a code: past the code before it and not past the
code itself. -/
theorem roundCode_eq {num den c : Nat} (hden : 0 < den) (hc : c < infinityCode)
    (hlower : c = 0 ∨ PastCode num den (c - 1)) (hupper : ¬PastCode num den c) :
    roundCode num den = c := by
  have hle : ¬c < roundCode num den := (lt_roundCode_iff hden hc).not.2 hupper
  rcases hlower with rfl | hlower
  · omega
  · have := (lt_roundCode_iff hden (by omega)).2 hlower
    omega

end AccelForm
