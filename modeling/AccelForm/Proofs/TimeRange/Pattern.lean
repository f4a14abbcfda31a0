import AccelForm.TimeRange
import Mathlib.Data.List.TakeWhile
/-
  What a range is made of

  A range is checked in one way and measured in another. The check asks for a
  minus sign, digits of any script and one of the words for a unit, with
  nothing after it (`isValid_iff`). The measure looks at the front only, for
  the minus sign, the digits and the letter of a unit (`leading?_eq_some_iff`).
  No digit is the letter of a unit, so there is one way to take a text apart
  (`Leads.unique`), and a well-formed range begins with the letter of its own
  unit (`Spelled.leads`).
-/

namespace AccelForm

namespace TimeUnit

/-- The units, the shortest first. -/
def all : List TimeUnit := [.second, .hour, .day, .week, .month, .quarter, .year]

theorem mem_all (unit : TimeUnit) : unit ∈ all := by cases unit <;> decide

def spellings : TimeUnit → List String
  | .second => ["s", "second", "seconds"]
  | .hour => ["h", "hour", "hours"]
  | .day => ["d", "day", "days"]
  | .week => ["w", "week", "weeks"]
  | .month => ["mon", "month", "months"]
  | .quarter => ["q", "qtr", "qtrs", "quarter", "quarters"]
  | .year => ["y", "yr", "yrs", "year", "years"]

variable {unit : TimeUnit} {word : String} {letter : Char}

theorem mem_words_iff : word ∈ words ↔ ∃ unit : TimeUnit, word ∈ unit.spellings := by
  have hforth : ∀ w ∈ words, w ∈ all.flatMap spellings := by decide
  have hback : ∀ unit ∈ all, ∀ w ∈ spellings unit, w ∈ words := by decide
  constructor
  · intro h
    obtain ⟨unit, _, hunit⟩ := List.mem_flatMap.1 (hforth word h)
    exact ⟨unit, hunit⟩
  · intro ⟨unit, hunit⟩
    exact hback unit (mem_all unit) word hunit

/-- A word begins with the letter of its unit. -/
theorem toList_of_mem_spellings (h : word ∈ unit.spellings) :
    ∃ letter tail, word.toList = letter :: tail ∧ ofLetter? letter = some unit := by
  have hall : ∀ unit ∈ all, ∀ w ∈ spellings unit, w.toList.head?.bind ofLetter? = some unit := by
    decide
  have hword := hall unit (mem_all unit) word h
  cases hcs : word.toList with
  | nil =>
    rw [hcs] at hword
    cases hword
  | cons letter tail =>
    rw [hcs] at hword
    exact ⟨letter, tail, rfl, hword⟩

theorem isDecimalDigit_of_ofLetter? (h : ofLetter? letter = some unit) :
    Text.isDecimalDigit letter = false := by
  have hletter : letter ∈ ['s', 'h', 'd', 'w', 'm', 'q', 'y'] := by
    by_contra hno
    simp only [List.mem_cons, List.not_mem_nil, or_false, not_or] at hno
    simp [ofLetter?, hno] at h
  have hnone : ['s', 'h', 'd', 'w', 'm', 'q', 'y'].any Text.isDecimalDigit = false := by decide
  exact Bool.eq_false_iff.2 (List.any_eq_false.1 hnone letter hletter)

end TimeUnit

namespace TimeRange

/-- A text is a minus sign, one or more digits of any script, and a rest. -/
structure Counted (s : String) (digits rest : List Char) : Prop where
  toList_eq : s.toList = '-' :: (digits ++ rest)
  ne_nil : digits ≠ []
  isDecimalDigit : ∀ c ∈ digits, Text.isDecimalDigit c = true

/-- A text begins with a minus sign, digits and the letter of a unit. -/
def Leads (s : String) (digits : List Char) (unit : TimeUnit) : Prop :=
  ∃ letter tail, Counted s digits (letter :: tail) ∧ TimeUnit.ofLetter? letter = some unit

/-- A text is a minus sign, digits and a word for a unit. -/
def Spelled (s : String) (digits : List Char) (unit : TimeUnit) : Prop :=
  ∃ word ∈ unit.spellings, Counted s digits word.toList

variable {s : String} {digits rest tail : List Char} {letter : Char} {unit : TimeUnit}

/-! ## Taking the count off -/

theorem Counted.takeCount?_eq (h : Counted s digits (letter :: tail))
    (hletter : Text.isDecimalDigit letter = false) :
    takeCount? s.toList = some (digits, letter :: tail) := by
  have htake : (digits ++ letter :: tail).takeWhile Text.isDecimalDigit = digits := by
    rw [List.takeWhile_append_of_pos h.isDecimalDigit, List.takeWhile_cons_of_neg (by simp [hletter]),
      List.append_nil]
  have hdrop : (digits ++ letter :: tail).dropWhile Text.isDecimalDigit = letter :: tail := by
    rw [List.dropWhile_append_of_pos h.isDecimalDigit, List.dropWhile_cons_of_neg (by simp [hletter])]
  have hne : digits.isEmpty = false := by simp [h.ne_nil]
  rw [h.toList_eq, takeCount?, htake, hdrop]
  simp [hne]

theorem counted_of_takeCount? (h : takeCount? s.toList = some (digits, rest)) :
    Counted s digits rest := by
  unfold takeCount? at h
  split at h
  · next cs hcs =>
    dsimp only at h
    split at h
    · cases h
    · next hne =>
      obtain ⟨rfl, rfl⟩ := Prod.mk.inj (Option.some.inj h)
      refine ⟨?_, by simpa using hne, fun c hc => List.mem_takeWhile_imp hc⟩
      rw [List.takeWhile_append_dropWhile]
      exact hcs
  · cases h

theorem Leads.takeCount?_eq (h : Leads s digits unit) : ∃ letter tail,
    takeCount? s.toList = some (digits, letter :: tail) ∧
      TimeUnit.ofLetter? letter = some unit := by
  obtain ⟨letter, tail, hcounted, hletter⟩ := h
  have hdigit := TimeUnit.isDecimalDigit_of_ofLetter? hletter
  exact ⟨letter, tail, hcounted.takeCount?_eq hdigit, hletter⟩

/-! ## The front that is measured -/

/-- A text is measured by the digits and the letter that it begins with. -/
theorem leading?_eq_some_iff {count : Binary64} : leading? s.toList = some (count, unit) ↔
    ∃ digits, Leads s digits unit ∧ count = countValue digits := by
  constructor
  · intro h
    unfold leading? at h
    split at h
    · next digits letter tail htake =>
      obtain ⟨found, hletter, hfound⟩ := Option.map_eq_some_iff.1 h
      obtain ⟨rfl, rfl⟩ := Prod.mk.inj hfound
      exact ⟨digits, ⟨letter, tail, counted_of_takeCount? htake, hletter⟩, rfl⟩
    · cases h
  · intro ⟨digits, hleads, hcount⟩
    obtain ⟨letter, tail, htake, hletter⟩ := hleads.takeCount?_eq
    simp [leading?, htake, hletter, hcount]

/-- A text begins with digits and the letter of a unit in one way. -/
theorem Leads.unique {digits' : List Char} {unit' : TimeUnit} (h : Leads s digits unit)
    (h' : Leads s digits' unit') : digits = digits' ∧ unit = unit' := by
  obtain ⟨letter, tail, htake, hletter⟩ := h.takeCount?_eq
  obtain ⟨letter', tail', htake', hletter'⟩ := h'.takeCount?_eq
  rw [htake] at htake'
  obtain ⟨hdigits, hrest⟩ := Prod.mk.inj (Option.some.inj htake')
  obtain ⟨rfl, _⟩ := List.cons.inj hrest
  exact ⟨hdigits, Option.some.inj (hletter.symm.trans hletter')⟩

theorem Leads.ne_nil (h : Leads s digits unit) : digits ≠ [] := by
  obtain ⟨_, _, hcounted, _⟩ := h
  exact hcounted.ne_nil

theorem Leads.isAllTime_eq (h : Leads s digits unit) : isAllTime s = false := by
  obtain ⟨letter, tail, hcounted, _⟩ := h
  have hne : ∀ t : String, t.toList.head? ≠ some '-' → s ≠ t := by
    intro t ht hst
    rw [← hst, hcounted.toList_eq] at ht
    exact ht rfl
  have hempty : s ≠ "" := hne "" (by decide)
  have hzero : s ≠ allTime := hne allTime (by decide)
  simp [isAllTime, hempty, hzero]

theorem Leads.measure_eq (h : Leads s digits unit) :
    measure s = ((countValue digits).mul unit.weight, unit.weight) := by
  have hleading := leading?_eq_some_iff.2 ⟨digits, h, rfl⟩
  rw [measure, h.isAllTime_eq, hleading]
  rfl

/-- A text is measured as all time, as a count of units or as no time. -/
theorem measure_cases (s : String) :
    (isAllTime s = true ∧ measure s = (.infinite false, .infinite false)) ∨
    (∃ digits unit, Leads s digits unit ∧
      measure s = ((countValue digits).mul unit.weight, unit.weight)) ∨
    ((∀ digits unit, ¬ Leads s digits unit) ∧ isAllTime s = false ∧
      measure s = (.finite Finite64.zero, .finite Finite64.zero)) := by
  by_cases hleads : ∃ digits unit, Leads s digits unit
  · obtain ⟨digits, unit, h⟩ := hleads
    exact .inr (.inl ⟨digits, unit, h, h.measure_eq⟩)
  · cases hall : isAllTime s with
    | true =>
      refine .inl ⟨rfl, ?_⟩
      rw [measure, if_pos hall]
    | false =>
      have hno : ∀ digits unit, ¬ Leads s digits unit :=
        fun digits unit h => hleads ⟨digits, unit, h⟩
      have hleading : leading? s.toList = none := by
        by_contra hsome
        obtain ⟨found, hfound⟩ := Option.ne_none_iff_exists'.1 hsome
        obtain ⟨digits, h, _⟩ := leading?_eq_some_iff.1 hfound
        exact hno digits found.2 h
      refine .inr (.inr ⟨hno, rfl, ?_⟩)
      rw [measure, hall, hleading]
      rfl

/-! ## The grammar of ranges -/

/-- The well-formed ranges are all time and a minus sign, digits and a word. -/
theorem isValid_iff : isValid s = true ↔ s = allTime ∨ ∃ digits unit, Spelled s digits unit := by
  rw [isValid, Bool.or_eq_true, decide_eq_true_eq]
  refine or_congr_right ⟨fun h => ?_, fun ⟨digits, unit, word, hword, hcounted⟩ => ?_⟩
  · split at h
    · next digits rest htake =>
      have hmem : String.ofList rest ∈ TimeUnit.words := by simpa using h
      obtain ⟨unit, hunit⟩ := TimeUnit.mem_words_iff.1 hmem
      have hcounted := counted_of_takeCount? htake
      exact ⟨digits, unit, _, hunit, by rwa [String.toList_ofList]⟩
    · cases h
  · obtain ⟨letter, tail, hcs, hletter⟩ := TimeUnit.toList_of_mem_spellings hword
    have hmem : word ∈ TimeUnit.words := TimeUnit.mem_words_iff.2 ⟨unit, hword⟩
    rw [hcs] at hcounted
    rw [hcounted.takeCount?_eq (TimeUnit.isDecimalDigit_of_ofLetter? hletter)]
    simpa [← hcs] using hmem

/-- A well-formed range begins with the letter of its own unit. -/
theorem Spelled.leads (h : Spelled s digits unit) : Leads s digits unit := by
  obtain ⟨word, hword, hcounted⟩ := h
  obtain ⟨letter, tail, hcs, hletter⟩ := TimeUnit.toList_of_mem_spellings hword
  exact ⟨letter, tail, hcs ▸ hcounted, hletter⟩

theorem Spelled.isValid (h : Spelled s digits unit) : isValid s = true :=
  isValid_iff.2 (.inr ⟨digits, unit, h⟩)

theorem exists_spelled (h : isValid s = true) (hs : s ≠ allTime) :
    ∃ digits unit, Spelled s digits unit :=
  (isValid_iff.1 h).resolve_left hs

end TimeRange

end AccelForm
