import AccelForm.Proofs.Binary64.Shortfall
import AccelForm.Proofs.Binary64.Spelling
import AccelForm.Proofs.TimeRange.Measure
/-
  Lengths of ranges

  A count of units has an exact length in seconds. Its span is the count times
  the weight of the unit, rounded, and the weight has been rounded before; yet
  spans are ordered as the lengths are, for all counts below 2 ^ 32
  (`above_span_iff`). There are two parts to this.

  Lengths that differ do so by one part in 2 ^ 42 at least (`length_gap`),
  because the finer one of two units divides the other's length; all roundings
  together move a span by much less.

  Equal lengths in different units are whole hours. A whole number of hours is
  rounded down to one code, whichever unit it is counted in
  (`roundCode_of_hours`): days are represented exactly, and what the weights of
  an hour and of a second fall short by is of one size.
-/

namespace AccelForm.TimeRange

open TimeUnit

/-! ## Lengths -/

/-- Lengths that differ do so by one part in 2 ^ 42. -/
theorem length_gap {n m : Nat} {u v : TimeUnit} (hn : n < 2 ^ 32) (hm : m < 2 ^ 32)
    (h : n * u.seconds < m * v.seconds) :
    m * v.seconds ≤ 2 ^ 42 * (m * v.seconds - n * u.seconds) := by
  cases u <;> cases v <;> simp only [TimeUnit.seconds] at h ⊢ <;> omega

theorem length_lt {n : Nat} (hn : n < 2 ^ 32) (unit : TimeUnit) : n * unit.seconds < 2 ^ 57 := by
  cases unit <;> simp only [TimeUnit.seconds] <;> omega

/-- A unit is represented exactly, or it falls short by 229 parts at least. -/
theorem days_or_shortfall (unit : TimeUnit) :
    (∃ days, unit.seconds = 86400 * days ∧ unit.shortfall = 0) ∨ 229 ≤ unit.shortfall := by
  cases unit with
  | second => exact .inr (by decide)
  | hour => exact .inr (by decide)
  | day => exact .inl ⟨1, rfl, rfl⟩
  | week => exact .inl ⟨7, rfl, rfl⟩
  | month => exact .inl ⟨30, rfl, rfl⟩
  | quarter => exact .inl ⟨90, rfl, rfl⟩
  | year => exact .inl ⟨365, rfl, rfl⟩

theorem exists_hours {unit : TimeUnit} (h : unit ≠ .second) (n : Nat) :
    ∃ hours, n * unit.seconds = 3600 * hours := by
  have hdvd : 3600 ∣ unit.seconds := by cases unit <;> first | exact absurd rfl h | decide
  exact hdvd.mul_left n

/-! ## Equal lengths -/

theorem exists_quantaPerUnit_eq_eight : ∃ k, 200 ≤ k ∧ quantaPerUnit = 8 * 2 ^ k := by
  obtain ⟨d, hd, hunit⟩ := exists_unit_row
  refine ⟨49 + d, by omega, ?_⟩
  rw [hunit, fractionCount_eq, Nat.pow_add]
  omega

section Hours
variable {unit : TimeUnit} {n hours quanta parts k c : Nat} (hunit : quantaPerUnit = 8 * 2 ^ k)

include hunit

/-- An hour is a third of a power of two of quanta. -/
theorem three_mul_of_hours (h : FallsShort quanta (3600 * hours) parts) :
    3 * quanta * 2 ^ 62 = hours * 2 ^ k * (2 ^ 62 - parts) := by
  unfold FallsShort at h
  rw [hunit] at h
  refine Nat.eq_of_mul_eq_mul_left (by decide : 0 < 28800) ?_
  calc 28800 * (3 * quanta * 2 ^ 62) = quanta * (86400 * 2 ^ 62) := by ring
    _ = 3600 * hours * (2 ^ 62 - parts) * (8 * 2 ^ k) := h
    _ = 28800 * (hours * 2 ^ k * (2 ^ 62 - parts)) := by ring

/-- A whole number of days is represented exactly. -/
theorem roundCode_of_days {days : Nat} (hdays : hours = 24 * days) (hhours : hours < 2 ^ 53)
    (hquanta : FallsShort quanta (3600 * hours) 0) (hdown : RoundsDown (hours * 2 ^ k) 3 c)
    (hc : c < infinityCode) : roundCode quanta 1 = c := by
  have hthree := three_mul_of_hours hunit hquanta
  obtain ⟨c', hc'⟩ := exists_codeQuanta (8 * days) k (by rw [two_mul_fractionCount]; omega)
  have hnum : hours * 2 ^ k = 3 * codeQuanta c' := by rw [hc', hdays]; ring
  have hquanta' : quanta = codeQuanta c' := by
    rw [Nat.sub_zero, hnum] at hthree
    have h := Nat.eq_of_mul_eq_mul_right (by decide) hthree
    omega
  rw [hnum] at hdown
  obtain rfl := hdown.eq_of_exact
  rw [hquanta', roundCode_codeQuanta hc.le]

/-- A whole number of hours is rounded down, whichever unit it is counted in. -/
theorem roundCode_of_hours (hk : 54 ≤ k) (hlength : n * unit.seconds = 3600 * hours)
    (hhours : hours < 2 ^ 53) (hquanta : FallsShort quanta (n * unit.seconds) unit.shortfall)
    (hdown : RoundsDown (hours * 2 ^ k) 3 c) (hc : c < infinityCode) :
    roundCode quanta 1 = c := by
  rw [hlength] at hquanta
  obtain ⟨days, hdays, hexact⟩ | hshort := days_or_shortfall unit
  · rw [hexact] at hquanta
    have hwhole : hours = 24 * (n * days) := by
      rw [hdays] at hlength
      refine Nat.eq_of_mul_eq_mul_left (by decide : 0 < 3600) ?_
      calc 3600 * hours = n * (86400 * days) := hlength.symm
        _ = 3600 * (24 * (n * days)) := by ring
    exact roundCode_of_days hunit hwhole hhours hquanta hdown hc
  · have hround : roundCode quanta 1 = roundCode (3 * quanta) 3 :=
      roundCode_congr Nat.one_pos (by decide) (by ring)
    have hthree := three_mul_of_hours hunit hquanta
    rw [hround]
    exact roundCode_third hdown hhours hk hshort hthree unit.shortfall_le hc

theorem hours_lt_infinity (hhours : hours < 2 ^ 53) (hdown : RoundsDown (hours * 2 ^ k) 3 c) :
    c < infinityCode := by
  rw [← codeQuanta_strictMono.lt_iff_lt]
  calc codeQuanta c ≤ 3 * codeQuanta c := Nat.le_mul_of_pos_left _ (by decide)
    _ ≤ hours * 2 ^ k := hdown.le
    _ ≤ hours * quantaPerUnit := by
        rw [hunit]
        exact Nat.mul_le_mul_left hours (Nat.le_mul_of_pos_left _ (by decide))
    _ < 2 ^ 53 * quantaPerUnit := Nat.mul_lt_mul_of_pos_right hhours quantaPerUnit_pos
    _ = quantaPerUnit * 2 ^ 53 := Nat.mul_comm _ _
    _ = codeQuanta ((1023 + 53) * fractionCount) := (codeQuanta_pow 53).symm
    _ < codeQuanta infinityCode := codeQuanta_strictMono (by decide)

end Hours

/-! ## Different lengths -/

/-- The gap is wider than what the roundings and the shortfalls take of it. -/
theorem parts_gap {a b : Nat} (short : Nat) {short' : Nat} (h : a < b)
    (hgap : b ≤ 2 ^ 42 * (b - a)) (hshort : short' ≤ 256) :
    (2 ^ 52 + 1) * (a * (2 ^ 62 - short)) + 1 ≤ 2 ^ 52 * (b * (2 ^ 62 - short')) := by
  have ha : a * (2 ^ 62 - short) ≤ a * 2 ^ 62 := Nat.mul_le_mul_left a (Nat.sub_le _ _)
  have hb : b * (2 ^ 62 - 256) ≤ b * (2 ^ 62 - short') := Nat.mul_le_mul_left b (by omega)
  omega

theorem quantum_lt : 2 ^ 52 * (86400 * 2 ^ 62) < quantaPerUnit := by
  obtain ⟨k, hk, hunit⟩ := exists_quantaPerUnit_eq_eight
  have hpow : 2 ^ 200 ≤ 2 ^ k := Nat.pow_le_pow_right (by decide) hk
  omega

/-! ## Lengths compared -/

section Compared
variable {n m p q : Nat} {u v : TimeUnit} (hn : n < 2 ^ 32) (hm : m < 2 ^ 32)
  (hp : FallsShort p (n * u.seconds) u.shortfall) (hq : FallsShort q (m * v.seconds) v.shortfall)

include hn hm hp hq

/-- Equal lengths are rounded to one code. -/
theorem roundCode_eq_of_length_eq (h : n * u.seconds = m * v.seconds) :
    roundCode p 1 = roundCode q 1 := by
  by_cases hboth : u = .second ∧ v = .second
  · obtain ⟨rfl, rfl⟩ := hboth
    obtain rfl : n = m := Nat.eq_of_mul_eq_mul_right (seconds_pos .second) h
    have hpq : p = q := Nat.eq_of_mul_eq_mul_right (by decide) (hp.trans hq.symm)
    rw [hpq]
  · obtain ⟨hours, hhours⟩ : ∃ hours, n * u.seconds = 3600 * hours := by
      by_cases hu : u = .second
      · have hv : v ≠ .second := fun hv => hboth ⟨hu, hv⟩
        rw [h]
        exact exists_hours hv m
      · exact exists_hours hu n
    have hlt : hours < 2 ^ 53 := by
      have hlength := length_lt hn u
      omega
    obtain ⟨k, hk, hunit⟩ := exists_quantaPerUnit_eq_eight
    obtain ⟨c, hdown⟩ := exists_roundsDown (hours * 2 ^ k) (by decide : 0 < 3)
    have hc := hours_lt_infinity hunit hlt hdown
    have hk' : 54 ≤ k := by omega
    rw [roundCode_of_hours hunit hk' hhours hlt hp hdown hc,
      roundCode_of_hours hunit hk' (h.symm.trans hhours) hlt hq hdown hc]

/-- Of different lengths the longer one is rounded to the larger code. -/
theorem roundCode_lt_of_length_lt (h : n * u.seconds < m * v.seconds) :
    roundCode p 1 < roundCode q 1 := by
  have hgap := length_gap hn hm h
  have hlength := length_lt hn u
  have hv := shortfall_le v
  have hden : 0 < 86400 * 2 ^ 62 := by decide
  unfold FallsShort at hp hq
  rw [roundCode_congr Nat.one_pos hden (hp.trans (Nat.mul_one _).symm),
    roundCode_congr Nat.one_pos hden (hq.trans (Nat.mul_one _).symm)]
  generalize n * u.seconds = a at h hgap hlength ⊢
  generalize m * v.seconds = b at h hgap ⊢
  apply roundCode_lt_of_gap hden
  · refine Nat.lt_of_le_of_lt (roundCode_le_of_le (c := (1023 + 57) * fractionCount) hden ?_)
      (by decide)
    rw [codeQuanta_pow]
    calc a * (2 ^ 62 - u.shortfall) * quantaPerUnit
        ≤ 2 ^ 57 * (86400 * 2 ^ 62) * quantaPerUnit :=
          Nat.mul_le_mul_right _ (Nat.mul_le_mul hlength.le (by omega))
      _ = 86400 * 2 ^ 62 * (quantaPerUnit * 2 ^ 57) := by ring
  · have hparts := parts_gap u.shortfall h hgap hv
    calc (2 ^ 52 + 1) * (a * (2 ^ 62 - u.shortfall) * quantaPerUnit) + 2 ^ 52 * (86400 * 2 ^ 62)
        < (2 ^ 52 + 1) * (a * (2 ^ 62 - u.shortfall) * quantaPerUnit) + quantaPerUnit :=
          Nat.add_lt_add_left quantum_lt _
      _ = ((2 ^ 52 + 1) * (a * (2 ^ 62 - u.shortfall)) + 1) * quantaPerUnit := by ring
      _ ≤ 2 ^ 52 * (b * (2 ^ 62 - v.shortfall)) * quantaPerUnit := Nat.mul_le_mul_right _ hparts
      _ = 2 ^ 52 * (b * (2 ^ 62 - v.shortfall) * quantaPerUnit) := Nat.mul_assoc _ _ _

/-- Rounding keeps the order of the lengths. -/
theorem roundCode_lt_iff :
    roundCode p 1 < roundCode q 1 ↔ n * u.seconds < m * v.seconds := by
  obtain hlt | heq | hgt := Nat.lt_trichotomy (n * u.seconds) (m * v.seconds)
  · exact iff_of_true (roundCode_lt_of_length_lt hn hm hp hq hlt) hlt
  · have hround := roundCode_eq_of_length_eq hn hm hp hq heq
    omega
  · have hround := roundCode_lt_of_length_lt hm hn hq hp hgt
    omega

end Compared

/-! ## Spans -/

/-- The span of a count of units is a length that falls short, rounded. -/
theorem exists_span {s : String} {digits : List Char} {unit : TimeUnit}
    (h : Leads s digits unit) (hascii : ∀ c ∈ digits, c.isDigit = true)
    (hcount : Text.decimalValue digits < 2 ^ 32) :
    ∃ quanta, span s = Binary64.ofQuanta false quanta 1 ∧
      FallsShort quanta (Text.decimalValue digits * unit.seconds) unit.shortfall := by
  obtain ⟨w, hw, hsign, hquanta⟩ := unit.exists_weight
  have hfits : Text.decimalValue digits < 2 ^ 53 := hcount.trans (by decide)
  refine ⟨Text.decimalValue digits * w.quanta, ?_, hquanta.mul _⟩
  rw [span, h.measure_eq, countValue_of_ascii h.ne_nil hascii, hw]
  dsimp only
  rw [Binary64.ofNat_mul hfits hsign]

/-- Spans are ordered as the lengths of the ranges are. -/
theorem above_span_iff {s t : String} {ds es : List Char} {u v : TimeUnit}
    (hs : Leads s ds u) (ht : Leads t es v)
    (hds : ∀ c ∈ ds, c.isDigit = true) (hes : ∀ c ∈ es, c.isDigit = true)
    (hn : Text.decimalValue ds < 2 ^ 32) (hm : Text.decimalValue es < 2 ^ 32) :
    (span t).above (span s) = true ↔
      Text.decimalValue ds * u.seconds < Text.decimalValue es * v.seconds := by
  obtain ⟨p, hspan, hp⟩ := exists_span hs hds hn
  obtain ⟨q, hspan', hq⟩ := exists_span ht hes hm
  rw [(magnitude_span t).above_iff (magnitude_span s), hspan, hspan', Binary64.rank_ofQuanta,
    Binary64.rank_ofQuanta, Int.ofNat_lt, roundCode_lt_iff hn hm hp hq]

end AccelForm.TimeRange
