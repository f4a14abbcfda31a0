import AccelForm.Proofs.Binary64.Rounding
import Mathlib.Data.Nat.Dist
/-
  Correct rounding

  What it means that a number is the correctly rounded one for a fraction: no
  number is nearer, of two that are equally near it is the even one, and it is
  infinite exactly from the midpoint on between the largest number and the
  power of two behind it (`RoundsTo`). Rounding to a code does this
  (`roundsTo_ofQuanta`), since a code is passed exactly at its midpoint.
-/

namespace AccelForm.Binary64

/-- Twice the midpoint between the largest finite magnitude and the power of two behind it. -/
def overflowQuanta : Nat := codeQuanta (infinityCode - 1) + codeQuanta infinityCode

/-- How far a number's magnitude is from `num / den` quanta, in parts of `1 / den`. -/
def distance (x : Finite64) (num den : Nat) : Nat := Nat.dist (den * x.quanta) num

/-- A number is the correctly rounded one for `num / den` quanta. -/
inductive RoundsTo (num den : Nat) : Binary64 → Prop where
  | finite {x : Finite64} (sign : x.negative = false) (below : 2 * num < den * overflowQuanta)
      (nearest : ∀ y : Finite64, distance x num den ≤ distance y num den)
      (even : ∀ y : Finite64, distance x num den = distance y num den → y.code ≠ x.code →
        x.code % 2 = 0) : RoundsTo num den (.finite x)
  | infinite (above : den * overflowQuanta ≤ 2 * num) : RoundsTo num den (.infinite false)

variable {x y : Finite64} {num den : Nat}

/-- Of two magnitudes the smaller one is nearer below the midpoint, and the larger one above it. -/
theorem distance_compare (num : Nat) (hden : 0 < den) (h : x.code < y.code) :
    (distance x num den ≤ distance y num den ↔ 2 * num ≤ den * (x.quanta + y.quanta)) ∧
    (distance y num den ≤ distance x num den ↔ den * (x.quanta + y.quanta) ≤ 2 * num) := by
  have hlt : den * x.quanta < den * y.quanta :=
    Nat.mul_lt_mul_of_pos_left (codeQuanta_strictMono h) hden
  rw [Nat.mul_add]
  unfold distance Nat.dist
  omega

/-- A number below the code of the fraction is farther away, or as far and next to an even code. -/
theorem nearest_of_lt (hden : 0 < den) (hlt : y.code < x.code)
    (hpast : PastCode num den (x.code - 1)) : distance x num den ≤ distance y num den ∧
      (distance x num den = distance y num den → x.code % 2 = 0) := by
  obtain ⟨hfarther, hnearer⟩ := distance_compare num hden hlt
  have hprev : codeQuanta y.code ≤ codeQuanta (x.code - 1) :=
    codeQuanta_strictMono.monotone (by omega)
  have hmid : den * (y.quanta + x.quanta) ≤
      den * (codeQuanta (x.code - 1) + codeQuanta (x.code - 1 + 1)) := by
    rw [Nat.sub_add_cancel (by omega)]
    exact Nat.mul_le_mul_left den (Nat.add_le_add_right hprev _)
  obtain hpast | ⟨htie, hodd⟩ := hpast
  · omega
  · omega

/-- A number above the code of the fraction is farther away, or as far while the code is even. -/
theorem nearest_of_gt (hden : 0 < den) (hlt : x.code < y.code)
    (hpast : ¬PastCode num den x.code) : distance x num den ≤ distance y num den ∧
      (distance x num den = distance y num den → x.code % 2 = 0) := by
  obtain ⟨hnearer, hfarther⟩ := distance_compare num hden hlt
  have hnext : codeQuanta (x.code + 1) ≤ codeQuanta y.code :=
    codeQuanta_strictMono.monotone (by omega)
  have hmid : den * (codeQuanta x.code + codeQuanta (x.code + 1)) ≤
      den * (x.quanta + y.quanta) := Nat.mul_le_mul_left den (Nat.add_le_add_left hnext _)
  unfold PastCode at hpast
  omega

/-- No other number is nearer than that of the code, and one as near leaves an even code. -/
theorem nearest_of_ne (hden : 0 < den) (hx : roundCode num den = x.code) (hne : y.code ≠ x.code) :
    distance x num den ≤ distance y num den ∧
      (distance x num den = distance y num den → x.code % 2 = 0) := by
  have hfinite := x.code_lt
  obtain hlt | hgt := Nat.lt_or_gt_of_ne hne
  · have hpast : x.code - 1 < roundCode num den := by omega
    exact nearest_of_lt hden hlt ((lt_roundCode_iff hden (by omega)).1 hpast)
  · have hpast : ¬x.code < roundCode num den := by omega
    exact nearest_of_gt hden hgt ((lt_roundCode_iff hden hfinite).not.1 hpast)

theorem distance_eq_of_code_eq (h : y.code = x.code) : distance y num den = distance x num den := by
  rw [distance, distance, Finite64.quanta, Finite64.quanta, h]

/-- Rounding is correct. -/
theorem roundsTo_ofQuanta (num : Nat) (hden : 0 < den) :
    RoundsTo num den (ofQuanta false num den) := by
  have hpos : 0 < infinityCode := by decide
  have hover : infinityCode - 1 < roundCode num den ↔ den * overflowQuanta ≤ 2 * num := by
    -- the largest code is odd, so that a tie goes past it
    have hodd : (infinityCode - 1) % 2 = 1 := by decide
    rw [lt_roundCode_iff hden (by omega), PastCode, Nat.sub_add_cancel hpos, ← overflowQuanta]
    omega
  unfold ofQuanta
  dsimp only
  split
  · next hfinite =>
    refine .finite rfl (by omega) (fun y => ?_) (fun y htie hne => ?_)
    · by_cases heq : y.code = roundCode num den
      · exact Nat.le_of_eq (distance_eq_of_code_eq heq).symm
      · exact (nearest_of_ne hden rfl heq).1
    · exact (nearest_of_ne hden rfl hne).2 htie
  · exact .infinite (hover.1 (by omega))

end AccelForm.Binary64
