import AccelForm.Proofs.Binary64.Spelling
/-
  Magnitudes

  Numbers that are not negative, infinity among them. They are ordered by
  their ranks, and the rank of a rounded fraction is its code, so that
  comparing them is comparing codes (`Magnitude.above_iff`, `rank_ofQuanta`).
  A magnitude times a positive number is a magnitude; it is positive if the
  first one is a whole number and not zero.
-/

namespace AccelForm.Binary64

/-- The number is a magnitude: it is not negative, and it is a number. -/
inductive Magnitude : Binary64 → Prop where
  | finite {x : Finite64} (h : x.negative = false) : Magnitude (.finite x)
  | infinite : Magnitude (.infinite false)

variable {x y : Binary64} {w : Finite64}

theorem magnitude_ofQuanta (num den : Nat) : (ofQuanta false num den).Magnitude := by
  unfold ofQuanta
  dsimp only
  split
  · exact .finite rfl
  · exact .infinite

theorem magnitude_ofNat (n : Nat) : (ofNat n).Magnitude :=
  magnitude_ofQuanta (n * quantaPerUnit) 1

theorem Magnitude.mul (hx : x.Magnitude) (hw : w.negative = false) (hpos : w.code ≠ 0) :
    (x.mul (.finite w)).Magnitude := by
  cases hx with
  | finite hx =>
    rw [Binary64.mul, hx, hw]
    exact magnitude_ofQuanta _ _
  | infinite =>
    rw [Binary64.mul, if_neg hpos, hw]
    exact .infinite

theorem rank_infinite : (infinite false).rank = infinityCode := rfl

theorem rank_finite (hw : w.negative = false) : (finite w).rank = w.code := by
  simp [rank, hw]

/-- A magnitude stands between zero and infinity. -/
theorem Magnitude.rank_bounds (hx : x.Magnitude) : 0 ≤ x.rank ∧ x.rank ≤ infinityCode := by
  cases hx with
  | @finite w h =>
    have hlt := w.code_lt
    rw [rank_finite h]
    omega
  | infinite =>
    rw [rank_infinite]
    omega

/-- The larger one of two magnitudes has the larger rank. -/
theorem Magnitude.above_iff (hx : x.Magnitude) (hy : y.Magnitude) :
    x.above y = true ↔ y.rank < x.rank := by
  cases hx with
  | @finite v hv =>
    cases hy with
    | @finite w hw => simp [above, Finite64.place, rank_finite, hv, hw]
    | infinite =>
      have hlt := v.code_lt
      rw [rank_finite hv, rank_infinite]
      exact iff_of_false (by simp [above]) (by omega)
  | infinite =>
    cases hy with
    | @finite w hw =>
      have hlt := w.code_lt
      rw [rank_finite hw, rank_infinite]
      exact iff_of_true rfl (by omega)
    | infinite => exact iff_of_false (by simp [above]) (Int.lt_irrefl _)

theorem magnitude_zero : (finite Finite64.zero).Magnitude := .finite rfl

theorem Magnitude.above_zero_iff (hx : x.Magnitude) :
    x.above (.finite Finite64.zero) = true ↔ 0 < x.rank :=
  hx.above_iff magnitude_zero

theorem Magnitude.not_zero_above (hx : x.Magnitude) :
    (Binary64.finite Finite64.zero).above x = false := by
  rw [Bool.eq_false_iff, ne_eq, magnitude_zero.above_iff hx]
  exact Int.not_lt.2 hx.rank_bounds.1

/-- The rank of a rounded fraction is its code. -/
theorem rank_ofQuanta (num den : Nat) : (ofQuanta false num den).rank = roundCode num den := by
  have hle := roundCode_le num den
  unfold ofQuanta
  dsimp only
  split
  · rfl
  · rw [rank_infinite]
    omega

/-! ## Products -/

theorem ofNat_zero : ofNat 0 = .finite Finite64.zero := by
  have hround : roundCode (0 * quantaPerUnit) 1 = 0 := by
    rw [Nat.zero_mul]
    decide
  unfold ofNat ofFraction
  rw [ofQuanta_eq_finite hround (by decide)]
  rfl

/-- A product with zero is zero. -/
theorem rank_zero_mul (hw : w.negative = false) :
    ((finite Finite64.zero).mul (.finite w)).rank = 0 := by
  have hround : roundCode (0 * w.quanta) quantaPerUnit ≤ 0 :=
    roundCode_le_of_le quantaPerUnit_pos (by rw [Nat.zero_mul]; exact Nat.zero_le _)
  have hquanta : Finite64.zero.quanta = 0 := codeQuanta_zero
  have hrank := rank_ofQuanta (0 * w.quanta) quantaPerUnit
  rw [Nat.le_zero.1 hround] at hrank
  rw [mul, hquanta, hw]
  exact hrank

/-- A product of positive numbers is positive where one of them is a whole number. -/
theorem rank_ofNat_mul_pos {n : Nat} (hn : n ≠ 0) (hw : w.negative = false) (hpos : w.code ≠ 0) :
    0 < ((ofNat n).mul (.finite w)).rank := by
  have hcount := magnitude_ofNat n
  generalize hx : ofNat n = x at hcount ⊢
  cases hcount with
  | infinite =>
    rw [mul, if_neg hpos, hw]
    decide
  | @finite v hv =>
    have hquanta : quantaPerUnit ≤ v.quanta := by
      rw [← codeQuanta_one]
      refine le_quanta_of_ofFraction hx (by decide) ?_
      rw [codeQuanta_one]
      exact Nat.le_mul_of_pos_left _ (Nat.pos_of_ne_zero hn)
    have hround : w.code ≤ roundCode (v.quanta * w.quanta) quantaPerUnit :=
      le_roundCode quantaPerUnit_pos w.code_lt.le (Nat.mul_le_mul_right w.quanta hquanta)
    rw [mul, hv, hw, Bool.bne_false, rank_ofQuanta]
    omega

end AccelForm.Binary64
