import AccelForm.Text.Blank
import AccelForm.Text.Numeral
import Mathlib.Algebra.Order.Group.Nat
import Mathlib.Data.Nat.Digits.Defs
/-
  Digits

  The digits of a number spell that number, and zeros in front of them or
  behind them do what they do on paper. No digit is a blank or changes its
  case.
-/

namespace AccelForm.Text

theorem decimalValue_toDigits (n : Nat) : decimalValue (Nat.toDigits 10 n) = n :=
  Nat.ofDigitChars_ten_toDigits

theorem decimalValue_append_zeros (cs : List Char) (n : Nat) :
    decimalValue (cs ++ List.replicate n '0') = 10 ^ n * decimalValue cs := by
  have h : Nat.ofDigitChars 10 (cs ++ List.replicate n '0') 0 =
      10 ^ n * Nat.ofDigitChars 10 cs 0 := by
    rw [Nat.ofDigitChars_append, Nat.ofDigitChars_replicate_zero]
  exact h

theorem decimalValue_zeros_append (n : Nat) (cs : List Char) :
    decimalValue (List.replicate n '0' ++ cs) = decimalValue cs := by
  have h : Nat.ofDigitChars 10 (List.replicate n '0' ++ cs) 0 = Nat.ofDigitChars 10 cs 0 := by
    rw [Nat.ofDigitChars_append, Nat.ofDigitChars_replicate_zero, Nat.mul_zero]
  exact h

theorem isDigit_of_mem_toDigits {n : Nat} {c : Char} (h : c ∈ Nat.toDigits 10 n) :
    c.isDigit = true :=
  Nat.isDigit_of_mem_toDigits (by decide) (by decide) h

theorem natural?_toDigits (n : Nat) : natural? (Nat.toDigits 10 n) = some n := by
  have hall : (Nat.toDigits 10 n).all Char.isDigit = true :=
    List.all_eq_true.2 fun _ => isDigit_of_mem_toDigits
  simp [natural?, hall, Nat.toDigits_ne_nil, decimalValue_toDigits]

/-- The number of digits of a number, by the powers of ten around it. -/
theorem pow_length_toDigits (n : Nat) :
    n < 10 ^ (Nat.toDigits 10 n).length ∧
      (n ≠ 0 → 10 ^ ((Nat.toDigits 10 n).length - 1) ≤ n) := by
  have hpos : 0 < (Nat.toDigits 10 n).length := Nat.length_toDigits_pos
  refine ⟨(Nat.length_toDigits_le_iff (by decide) hpos).1 (Nat.le_refl _), fun hn => ?_⟩
  by_cases h : (Nat.toDigits 10 n).length - 1 = 0
  · rw [h]
    omega
  · by_contra hlt
    have hle := (Nat.length_toDigits_le_iff (by decide) (Nat.pos_of_ne_zero h)).2
      (Nat.lt_of_not_le hlt)
    omega

theorem toLower_of_isDigit {c : Char} (h : c.isDigit = true) : c.toLower = c := by
  rw [Char.isDigit_iff_toNat] at h
  unfold Char.toLower
  rw [dif_neg]
  rintro ⟨hle, _⟩
  exact absurd h.2 (by simpa using Nat.lt_of_lt_of_le (by decide : 57 < 65) hle)

theorem isBlank_of_isDigit {c : Char} (h : c.isDigit = true) : isBlank c = false := by
  rw [Char.isDigit_iff_toNat] at h
  have h0 : '0'.toNat = 48 := rfl
  have h9 : '9'.toNat = 57 := rfl
  simp only [isBlank, Bool.or_eq_false_iff, Bool.and_eq_false_iff, decide_eq_false_iff_not,
    beq_eq_false_iff_ne]
  omega

end AccelForm.Text
