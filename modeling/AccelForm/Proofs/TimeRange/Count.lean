import AccelForm.Proofs.Binary64.Correct
import AccelForm.Proofs.TimeRange.Measure
import Mathlib.Data.Nat.Digits.Defs
/-
  What a count is read as

  The grammar of ranges admits the decimal digits of every script. A count in
  ASCII digits is read as the number that it denotes, correctly rounded; a
  count with any other digit is read as zero, whatever it denotes, so that a
  well-formed range can have no span (`valid_range_measured`). In ASCII digits
  only a count of zeros has none.
-/

namespace AccelForm

namespace Text

/-- The value of a digit in its script: the digits of a script are in a row, from zero to nine, and
one row may follow another. -/
def scriptDigit (c : Char) : Nat :=
  match decimalDigits.find? fun range => range.1 ≤ c.toNat && c.toNat ≤ range.2 with
  | some range => (c.toNat - range.1) % 10
  | none => 0

def denoted (digits : List Char) : Nat := Nat.ofDigits 10 (digits.map scriptDigit).reverse

variable {digits : List Char}

theorem scriptDigit_of_isDigit {c : Char} (h : c.isDigit = true) :
    scriptDigit c = digitValue c := by
  rw [Char.isDigit_iff_toNat] at h
  have h0 : '0'.toNat = 48 := rfl
  have h9 : '9'.toNat = 57 := rfl
  unfold scriptDigit digitValue decimalDigits
  rw [List.find?_cons_of_pos (by simp; omega)]
  dsimp only
  omega

theorem denoted_eq_zero_iff : denoted digits = 0 ↔ ∀ c ∈ digits, scriptDigit c = 0 := by
  constructor
  · intro h c hc
    exact Nat.digits_zero_of_eq_zero (by decide) h _ (by simpa using ⟨c, hc, rfl⟩)
  · intro h
    have hzeros : (digits.map scriptDigit).reverse = List.replicate digits.length 0 :=
      List.eq_replicate_iff.2 ⟨by simp, by simpa using h⟩
    rw [denoted, hzeros, Nat.ofDigits_replicate_zero]

/-- ASCII digits denote the number that they spell. -/
theorem denoted_of_ascii (h : ∀ c ∈ digits, c.isDigit = true) :
    denoted digits = decimalValue digits := by
  have hmap : digits.map scriptDigit = digits.map digitValue :=
    List.map_congr_left fun c hc => scriptDigit_of_isDigit (h c hc)
  rw [denoted, hmap, Nat.ofDigits_eq_foldr, List.foldr_reverse, List.foldl_map, decimalValue]
  congr 1
  funext n c
  exact Nat.add_comm _ _

end Text

namespace TimeRange

open Text

variable {s : String} {digits : List Char} {unit : TimeUnit}

/-- A count of ASCII digits is read as the number that they denote, correctly rounded. -/
theorem roundsTo_countValue (hne : digits ≠ []) (h : ∀ c ∈ digits, c.isDigit = true) :
    Binary64.RoundsTo (denoted digits * quantaPerUnit) 1 (countValue digits) := by
  rw [countValue_of_ascii hne h, denoted_of_ascii h]
  exact Binary64.roundsTo_ofQuanta _ Nat.one_pos

/-- A range has a span if its digits are ASCII and not all of them are zeros. -/
theorem Leads.above_zero_iff (h : Leads s digits unit) :
    (span s).above (.finite Finite64.zero) = true ↔
      (∀ c ∈ digits, c.isDigit = true) ∧ ∃ c ∈ digits, scriptDigit c ≠ 0 := by
  obtain ⟨w, hw, hsign, hpos⟩ := unit.exists_positive_weight
  rw [(magnitude_span s).above_zero_iff, span, h.measure_eq, hw]
  dsimp only
  by_cases hascii : ∀ c ∈ digits, c.isDigit = true
  · rw [countValue_of_ascii h.ne_nil hascii, and_iff_right hascii, ← denoted_of_ascii hascii]
    by_cases hzero : denoted digits = 0
    · rw [hzero, Binary64.ofNat_zero, Binary64.rank_zero_mul hsign]
      refine iff_of_false (Int.lt_irrefl 0) ?_
      intro ⟨c, hc, hne⟩
      exact hne (denoted_eq_zero_iff.1 hzero c hc)
    · refine iff_of_true (Binary64.rank_ofNat_mul_pos hzero hsign hpos) ?_
      by_contra hno
      refine hzero (denoted_eq_zero_iff.2 fun c hc => ?_)
      by_contra hne
      exact hno ⟨c, hc, hne⟩
  · have hother : ∃ c ∈ digits, c.isDigit = false := by simpa using hascii
    rw [countValue_of_not_ascii hother, Binary64.rank_zero_mul hsign]
    exact iff_of_false (Int.lt_irrefl 0) fun hno => hascii hno.1

/-- A well-formed range begins with the letter of its own unit and is measured by its digits: in
ASCII they are read as the number that they denote, correctly rounded, and otherwise as zero. So it
has a span if and only if its digits are ASCII and not all of them are zeros. -/
theorem valid_range_measured (h : isValid s = true) (hs : s ≠ allTime) :
    ∃ digits unit, Spelled s digits unit ∧ Leads s digits unit ∧
      measure s = ((countValue digits).mul unit.weight, unit.weight) ∧
      ((∀ c ∈ digits, c.isDigit = true) →
        Binary64.RoundsTo (denoted digits * quantaPerUnit) 1 (countValue digits)) ∧
      ((∃ c ∈ digits, c.isDigit = false) → countValue digits = .finite Finite64.zero) ∧
      ((span s).above (.finite Finite64.zero) = true ↔
        (∀ c ∈ digits, c.isDigit = true) ∧ ∃ c ∈ digits, scriptDigit c ≠ 0) := by
  obtain ⟨digits, unit, hspelled⟩ := exists_spelled h hs
  have hleads := hspelled.leads
  exact ⟨digits, unit, hspelled, hleads, hleads.measure_eq, roundsTo_countValue hleads.ne_nil,
    countValue_of_not_ascii, hleads.above_zero_iff⟩

theorem valid_range_ten_weeks : isValid "-10weeks" = true ∧ "-10weeks" ≠ allTime ∧
    (span "-10weeks").above (.finite Finite64.zero) = true := by
  have hvalid : isValid "-10weeks" = true := by decide
  have hne : "-10weeks" ≠ allTime := by decide
  obtain ⟨digits, unit, _, hleads, _, _, _, habove⟩ := valid_range_measured hvalid hne
  have hten : Leads "-10weeks" ['1', '0'] .week :=
    ⟨'w', ['e', 'e', 'k', 's'], ⟨rfl, by decide, List.all_eq_true.1 (by decide)⟩, rfl⟩
  obtain ⟨rfl, _⟩ := hleads.unique hten
  have hone : ∃ c ∈ ['1', '0'], scriptDigit c ≠ 0 := ⟨'1', List.mem_cons_self, by decide⟩
  exact ⟨hvalid, hne, habove.2 ⟨List.all_eq_true.1 (by decide), hone⟩⟩

/-- Three days in Arabic digits are well-formed, but they are no time at all: the count is not the
number nearest to three, and the range has no span. -/
theorem three_in_arabic_digits : isValid "-\u0663d" = true ∧ "-\u0663d" ≠ allTime ∧
    Spelled "-\u0663d" ['\u0663'] .day ∧ denoted ['\u0663'] = 3 ∧
    ¬ Binary64.RoundsTo (3 * quantaPerUnit) 1 (countValue ['\u0663']) ∧
    (span "-\u0663d").above (.finite Finite64.zero) = false ∧
    span "-\u0663d" = span "now" := by
  have hcount : countValue ['\u0663'] = .finite Finite64.zero := by decide
  have hspelled : Spelled "-\u0663d" ['\u0663'] .day :=
    ⟨"d", by decide, rfl, by decide, List.all_eq_true.1 (by decide)⟩
  refine ⟨by decide, by decide, hspelled, by decide, ?_, by decide +kernel, by decide +kernel⟩
  rw [hcount]
  intro h
  cases h with
  | finite _ _ nearest =>
    -- the number one is nearer to three than zero is
    exact absurd (nearest ⟨false, 1023 * fractionCount, by decide⟩) (by decide +kernel)

end TimeRange

end AccelForm
