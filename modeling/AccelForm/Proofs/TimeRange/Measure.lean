import AccelForm.Proofs.Binary64.Magnitude
import AccelForm.Proofs.TimeRange.Pattern
/-
  Spans and weights

  The weight of a unit is its length in days, rounded once. A day and what is
  made of whole days is represented exactly; an hour and a second are not, and
  their weights fall short by a known part (`exists_weight`). No weight is zero
  or without end, so a span is a magnitude (`magnitude_span`): it is not
  negative, and it is a number even where the count is too large for one.
-/

namespace AccelForm

namespace TimeUnit

def seconds : TimeUnit → Nat
  | .second => 1
  | .hour => 3600
  | .day => 86400
  | .week => 7 * 86400
  | .month => 30 * 86400
  | .quarter => 90 * 86400
  | .year => 365 * 86400

/-- By how many parts of 2 ^ 62 the weight of a unit falls short of its length. -/
def shortfall : TimeUnit → Nat
  | .second => 229
  | .hour => 256
  | _ => 0

/-- A number of quanta is a length in seconds, given in days, less some parts of 2 ^ 62. -/
def FallsShort (quanta seconds parts : Nat) : Prop :=
  quanta * (86400 * 2 ^ 62) = seconds * (2 ^ 62 - parts) * quantaPerUnit

theorem FallsShort.mul {quanta seconds parts : Nat} (h : FallsShort quanta seconds parts)
    (n : Nat) : FallsShort (n * quanta) (n * seconds) parts := by
  unfold FallsShort at h ⊢
  rw [Nat.mul_assoc, h]
  ring

/-- The weight of a unit is its length in days. -/
theorem weight_eq (unit : TimeUnit) :
    unit.weight = Binary64.ofFraction false unit.seconds 86400 := by
  cases unit <;> rw [weight, seconds] <;>
    exact Binary64.ofFraction_congr (by decide) (by decide) (by decide)

/-- What the weight of a unit is exactly. -/
theorem exists_weight (unit : TimeUnit) : ∃ w : Finite64, unit.weight = .finite w ∧
    w.negative = false ∧ FallsShort w.quanta unit.seconds unit.shortfall := by
  have hall : ∀ unit ∈ all, roundCode (unit.seconds * quantaPerUnit) 86400 < infinityCode ∧
      codeQuanta (roundCode (unit.seconds * quantaPerUnit) 86400) * (86400 * 2 ^ 62) =
        unit.seconds * (2 ^ 62 - unit.shortfall) * quantaPerUnit := by decide +kernel
  obtain ⟨hcode, hquanta⟩ := hall unit (mem_all unit)
  have hfinite : Binary64.ofFraction false unit.seconds 86400 = .finite ⟨false, _, hcode⟩ :=
    Binary64.ofQuanta_eq_finite rfl hcode
  exact ⟨⟨false, _, hcode⟩, unit.weight_eq.trans hfinite, rfl, hquanta⟩

theorem seconds_pos (unit : TimeUnit) : 0 < unit.seconds := by cases unit <;> decide

theorem shortfall_le (unit : TimeUnit) : unit.shortfall ≤ 256 := by cases unit <;> decide

/-- No unit weighs nothing. -/
theorem exists_positive_weight (unit : TimeUnit) :
    ∃ w : Finite64, unit.weight = .finite w ∧ w.negative = false ∧ w.code ≠ 0 := by
  obtain ⟨w, hw, hsign, hquanta⟩ := unit.exists_weight
  refine ⟨w, hw, hsign, ?_⟩
  intro hzero
  have hshort := unit.shortfall_le
  have hpos : 0 < unit.seconds * (2 ^ 62 - unit.shortfall) * quantaPerUnit :=
    Nat.mul_pos (Nat.mul_pos unit.seconds_pos (by omega)) quantaPerUnit_pos
  rw [← hquanta, Finite64.quanta, hzero, codeQuanta_zero, Nat.zero_mul] at hpos
  exact Nat.lt_irrefl 0 hpos

end TimeUnit

namespace TimeRange

/-- A count of ASCII digits is read as the number that they spell. -/
theorem countValue_of_ascii {digits : List Char} (hne : digits ≠ [])
    (h : ∀ c ∈ digits, c.isDigit = true) :
    countValue digits = Binary64.ofNat (Text.decimalValue digits) := by
  have hall : digits.all Char.isDigit = true := List.all_eq_true.2 h
  simp [countValue, Text.natural?, hne, hall]

/-- A count with any other digit is read as zero. -/
theorem countValue_of_not_ascii {digits : List Char} (h : ∃ c ∈ digits, c.isDigit = false) :
    countValue digits = .finite Finite64.zero := by
  have hall : digits.all Char.isDigit = false := List.all_eq_false.2 (by simpa using h)
  simp [countValue, Text.natural?, hall]

theorem magnitude_countValue (digits : List Char) : (countValue digits).Magnitude := by
  unfold countValue
  split
  · exact Binary64.magnitude_ofNat _
  · exact .finite rfl

/-- A span is not negative, and it is a number. -/
theorem magnitude_span (s : String) : (span s).Magnitude := by
  unfold span
  obtain ⟨_, hmeasure⟩ | ⟨digits, unit, _, hmeasure⟩ | ⟨_, _, hmeasure⟩ := measure_cases s
  · rw [hmeasure]
    exact .infinite
  · obtain ⟨w, hw, hsign, hpos⟩ := unit.exists_positive_weight
    rw [hmeasure, hw]
    exact (magnitude_countValue digits).mul hsign hpos
  · rw [hmeasure]
    exact .finite rfl

/-- A count of zero seconds has no span. -/
theorem span_no_time : span "-0s" = .finite Finite64.zero := by decide +kernel

/-- The weight of a unit is a positive number below infinity. -/
theorem rank_weight (unit : TimeUnit) :
    0 < unit.weight.rank ∧ unit.weight.rank < infinityCode := by
  obtain ⟨w, hw, hsign, hpos⟩ := unit.exists_positive_weight
  have hlt := w.code_lt
  rw [hw, Binary64.rank_finite hsign]
  omega

end TimeRange

end AccelForm
