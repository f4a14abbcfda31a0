import AccelForm.Attribute.Reading
import AccelForm.Proofs.Binary64.Spelling
import AccelForm.Proofs.Text.Trim
/-
  Values read again from their texts

  A value is sent as a text and comes back as a string. A switch that could
  not be read is not read from its text either (`flagOfWord?_valueText`). An
  integer is read from its text through a binary64 number: a number with a
  fraction part comes back as it was, a whole number only if its binary digits
  fit, and a boolean, which counts as an integer, does not come back at all.
  `KeepsInteger` says which values come back as the same integer.
-/

namespace AccelForm

open Decimal

/-! ## Texts of numbers -/

theorem numberChars_int (i : Int) :
    Json.numberChars (.int i) = signed (decide (i < 0)) (Nat.toDigits 10 i.natAbs) := by
  unfold Json.numberChars signed
  by_cases h : i < 0 <;> simp [h]

/-- The text of a whole number denotes that number. -/
theorem spells_toDigits (n : Nat) : Spells (Nat.toDigits 10 n) ⟨n, 0⟩ := by
  have h := Spells.unpointed (isDigits_decimalChars n) (Finite64.decimalChars_ne_nil n) .absent
    (d := ⟨n, 0⟩) (by rw [Finite64.decimalChars, Text.decimalValue_toDigits]; exact .refl _)
  rwa [List.append_nil] at h

theorem nearest_natural (negative : Bool) (n : Nat) :
    (Decimal.mk n 0).nearest negative = Binary64.ofFraction negative n 1 := by
  rw [nearest_eq_ofFraction]
  simp [numerator, denominator]

theorem read?_int (i : Int) : Binary64.read? (Json.numberChars (.int i)) =
    some (Binary64.ofFraction (decide (i < 0)) i.natAbs 1) := by
  rw [numberChars_int, (spells_toDigits _).read?_signed, nearest_natural]

theorem exists_spells_number (n : Number) :
    ∃ negative cs d, Json.numberChars n = signed negative cs ∧ Spells cs d := by
  cases n with
  | int i => exact ⟨_, _, _, numberChars_int i, spells_toDigits _⟩
  | real x =>
    obtain ⟨d, hspells, _⟩ := x.exists_spells
    exact ⟨_, _, d, x.chars_eq_signed, hspells⟩

/-! ## Switches -/

theorem mem_of_flagOfWord? {s : String} {on : Bool} (h : flagOfWord? s = some on) :
    Text.lower s ∈ if on then onWords else offWords := by
  unfold flagOfWord? at h
  dsimp only at h
  split at h
  · next hon =>
    cases h
    simpa using hon
  · split at h
    · next hoff =>
      cases h
      simpa using hoff
    · cases h

/-- The words for a switch begin with letters, but for one digit that is a word by itself. -/
theorem head_of_flagOfWord? {c : Char} {rest : List Char} {on : Bool}
    (h : flagOfWord? (String.ofList (c :: rest)) = some on) :
    c.toLower ∈ ['t', 'y', 'o', 'f', 'n'] ∨
      rest = [] ∧ c.toLower = if on then '1' else '0' := by
  have hwords : ∀ w ∈ if on then onWords else offWords, ∃ d ds, w.toList = d :: ds ∧
      (d ∈ ['t', 'y', 'o', 'f', 'n'] ∨ ds = [] ∧ d = if on then '1' else '0') := by
    cases on <;> simp [onWords, offWords]
  obtain ⟨d, ds, hds, hd⟩ := hwords _ (mem_of_flagOfWord? h)
  rw [Text.lower, String.toList_ofList, String.toList_ofList] at hds
  obtain ⟨rfl, rfl⟩ := List.cons.inj hds
  simpa [Text.lowerChars] using hd

/-- A numeral that is read as a switch is one digit. -/
theorem eq_of_flagOfWord?_signed {negative on : Bool} {cs : List Char} {d : Decimal}
    (hcs : Spells cs d) (h : flagOfWord? (String.ofList (signed negative cs)) = some on) :
    signed negative cs = if on then ['1'] else ['0'] := by
  obtain ⟨c, rest, rfl, hc⟩ := hcs.head
  cases negative with
  | true =>
    rcases head_of_flagOfWord? h with hminus | ⟨hnil, _⟩
    · exact absurd hminus (by decide)
    · cases hnil
  | false =>
    rcases head_of_flagOfWord? h with hletter | ⟨rfl, hdigit⟩
    · rw [Text.toLower_of_isDigit hc] at hletter
      simp only [List.mem_cons, List.not_mem_nil, or_false] at hletter
      rcases hletter with rfl | rfl | rfl | rfl | rfl <;> cases hc
    · rw [Text.toLower_of_isDigit hc] at hdigit
      subst hdigit
      cases on <;> rfl

/-- A number whose text is a switch's digit is read as that switch. -/
theorem flag?_of_digit {n : Number} {on : Bool}
    (h : Json.numberChars n = if on then ['1'] else ['0']) : flag? (.number n) = some on := by
  cases n with
  | int i =>
    rw [numberChars_int] at h
    by_cases hneg : i < 0
    · cases on <;> simp [signed, hneg] at h
    · have hvalue := Text.decimalValue_toDigits i.natAbs
      simp only [signed, hneg, decide_false, Bool.false_eq_true, if_false] at h
      rw [h] at hvalue
      cases on with
      | true =>
        have hi : i = 1 := by
          have hone : Text.decimalValue ['1'] = 1 := rfl
          simp only [if_true] at hvalue
          omega
        rw [hi]
        rfl
      | false =>
        have hi : i = 0 := by
          have hzero : Text.decimalValue ['0'] = 0 := rfl
          simp only [Bool.false_eq_true, if_false] at hvalue
          omega
        rw [hi]
        rfl
  | real x =>
    have hread := x.read?_chars
    rw [show x.chars = _ from h] at hread
    cases on with
    | true =>
      have hone : Binary64.read? ['1'] = some (.finite ⟨false, oneCode, by decide⟩) := by
        decide +kernel
      cases hread.symm.trans hone
      rfl
    | false =>
      have hzero : Binary64.read? ['0'] = some (.finite .zero) := by decide +kernel
      cases hread.symm.trans hzero
      rfl

/-- The first characters of the texts of arrays and objects. -/
def brackets : List Char := ['[', '\x7b']

theorem flagOfWord?_of_bracket {c : Char} (hc : c ∈ brackets) (rest : List Char) :
    flagOfWord? (String.ofList (c :: rest)) = none := by
  cases hf : flagOfWord? (String.ofList (c :: rest)) with
  | none => rfl
  | some on =>
    exfalso
    have hhead := head_of_flagOfWord? hf
    simp only [brackets, List.mem_cons, List.not_mem_nil, or_false] at hc
    rcases hc with rfl | rfl <;> rcases hhead with hletter | ⟨_, hdigit⟩
    · exact absurd hletter (by decide)
    · cases on <;> exact absurd hdigit (by decide)
    · exact absurd hletter (by decide)
    · cases on <;> exact absurd hdigit (by decide)

/-- What is no switch is not read as one from its text. -/
theorem flagOfWord?_valueText {v : Json} (h : flag? v = none) :
    flagOfWord? (valueText (some v)) = none := by
  cases v with
  | null => decide +kernel
  | bool on => cases h
  | string s => exact h
  | number n =>
    obtain ⟨negative, cs, d, hcs, hspells⟩ := exists_spells_number n
    have htext : valueText (some (.number n)) = String.ofList (signed negative cs) := by
      rw [← hcs]
      rfl
    rw [htext]
    cases hf : flagOfWord? (String.ofList (signed negative cs)) with
    | none => rfl
    | some on =>
      rw [flag?_of_digit (hcs.trans (eq_of_flagOfWord?_signed hspells hf))] at h
      cases h
  | array items => exact flagOfWord?_of_bracket (by decide) _
  | object members => exact flagOfWord?_of_bracket (by decide) _

/-! ## Integers -/

theorem integerOfText?_ofList {cs : List Char} (hne : cs ≠ [])
    (hblank : ∀ c ∈ cs, Text.isBlank c = false) :
    integerOfText? (String.ofList cs) =
      ((Binary64.read? cs).bind Binary64.finite?).bind integerOfReal? := by
  unfold integerOfText?
  rw [String.toList_ofList, Text.trimChars_eq_self hblank]
  simp [hne]

theorem integerOfText?_number (n : Number) :
    integerOfText? (valueText (some (.number n))) =
      ((Binary64.read? (Json.numberChars n)).bind Binary64.finite?).bind integerOfReal? := by
  obtain ⟨negative, cs, d, hcs, hspells⟩ := exists_spells_number n
  have hne : signed negative cs ≠ [] := by
    obtain ⟨c, rest, rfl, _⟩ := hspells.head
    cases negative <;> simp [signed]
  rw [hcs, ← integerOfText?_ofList hne (hspells.blank_signed negative), ← hcs]
  rfl

theorem integerOfText?_real (x : Finite64) :
    integerOfText? (valueText (some (.number (.real x)))) = integerOfReal? x := by
  rw [integerOfText?_number, show Json.numberChars (.real x) = x.chars from rfl, x.read?_chars]
  rfl

theorem integerOfText?_int (i : Int) :
    integerOfText? (valueText (some (.number (.int i)))) =
      (Binary64.ofFraction (decide (i < 0)) i.natAbs 1).finite?.bind integerOfReal? := by
  rw [integerOfText?_number, read?_int, Option.bind_some]

theorem integerOfReal?_eq_some {x : Finite64} {i : Int} :
    integerOfReal? x = some i ↔ x.whole? = some i ∧ i.natAbs < Text.signedBound := by
  unfold integerOfReal?
  rw [Option.filter_eq_some_iff, decide_eq_true_eq]

/-- What is read from the text of a whole number has digits that fit. -/
theorem isExact_of_integerOfText?_int {i j : Int}
    (h : integerOfText? (valueText (some (.number (.int i)))) = some j) :
    IsExact j ∧ j.natAbs < Text.signedBound := by
  rw [integerOfText?_int, Option.bind_eq_some_iff] at h
  obtain ⟨x, _, hx⟩ := h
  obtain ⟨hwhole, hlt⟩ := integerOfReal?_eq_some.1 hx
  exact ⟨.of_whole? hwhole, hlt⟩

/-- A whole number comes back as itself if its digits fit. -/
theorem integerOfText?_int_of_isExact {i : Int} (h : IsExact i)
    (hlt : i.natAbs < Text.signedBound) :
    integerOfText? (valueText (some (.number (.int i)))) = some i := by
  have habs : IsExact i.natAbs := by rwa [IsExact, Int.natAbs_natCast]
  obtain ⟨x, hx, hwhole⟩ := whole?_ofFraction (decide (i < 0)) habs hlt
  have hi : (if decide (i < 0) = true then -(i.natAbs : Int) else i.natAbs) = i := by
    split <;> rename_i hneg <;> rw [decide_eq_true_eq] at hneg <;> omega
  rw [integerOfText?_int, hx]
  exact integerOfReal?_eq_some.2 ⟨hi ▸ hwhole, hlt⟩

/-- A whole number beyond the bound is not read from its text. -/
theorem integerOfText?_int_of_le {i : Int} (h : Text.signedBound ≤ i.natAbs) :
    integerOfText? (valueText (some (.number (.int i)))) = none := by
  rw [integerOfText?_int, Option.bind_eq_none_iff]
  intro x hx
  cases hreal : integerOfReal? x with
  | none => rfl
  | some j =>
    obtain ⟨hwhole, hlt⟩ := integerOfReal?_eq_some.1 hreal
    have hfinite : Binary64.ofFraction (decide (i < 0)) i.natAbs 1 = .finite x := by
      cases hb : Binary64.ofFraction (decide (i < 0)) i.natAbs 1 with
      | finite y => rw [hb] at hx; rw [Option.some.inj hx]
      | infinite _ => rw [hb] at hx; cases hx
      | nan => rw [hb] at hx; cases hx
    exact absurd hlt (Nat.not_lt.2 (large_of_ofFraction h hfinite hwhole))

/-- No number begins as those texts do. -/
theorem read?_of_bracket {c : Char} (hc : c ∈ brackets) (rest : List Char) :
    Binary64.read? (c :: rest) = none := by
  have hfacts : takeSign (c :: rest) = (false, c :: rest) ∧ Decimal.read? (c :: rest) = none ∧
      c.toLower ≠ 'i' ∧ c.toLower ≠ 'n' := by
    simp only [brackets, List.mem_cons, List.not_mem_nil, or_false] at hc
    rcases hc with rfl | rfl <;> exact ⟨rfl, rfl, by decide, by decide⟩
  obtain ⟨hsign, hread, hi, hn⟩ := hfacts
  have hname : ∀ (w : String) (d : Char), w.toList.head? = some d → c.toLower ≠ d →
      String.ofList (Text.lowerChars (c :: rest)) ≠ w := by
    rintro w d hw hd rfl
    exact hd (by simpa [Text.lowerChars] using hw)
  unfold Binary64.read?
  rw [hsign]
  dsimp only
  rw [if_neg (by simp [hname "inf" 'i' rfl hi, hname "infinity" 'i' rfl hi]),
    if_neg (hname "nan" 'n' rfl hn), hread, Option.map_none]

/-- Those texts are not read as integers. -/
theorem integerOfText?_of_bracket {c : Char} (hc : c ∈ brackets) (rest : List Char) :
    integerOfText? (String.ofList (c :: rest)) = none := by
  have hblank : Text.isBlank c = false := by
    simp only [brackets, List.mem_cons, List.not_mem_nil, or_false] at hc
    rcases hc with rfl | rfl <;> decide
  have hhead := Text.head?_trimChars hblank rest
  unfold integerOfText?
  rw [String.toList_ofList]
  cases htrim : Text.trimChars (c :: rest) with
  | nil => rw [htrim] at hhead; cases hhead
  | cons d kept =>
    rw [htrim] at hhead
    obtain rfl := Option.some.inj hhead
    dsimp only
    rw [read?_of_bracket hc]
    rfl

/-- The integer that counts for a value that was sent as text. -/
def reread? (v : Json) : Option Int := integer? (some (.string (valueText (some v))))

/-- Whether a value counts as the same integer after it was sent as text. A boolean does so only
where what cannot be read counts as 0, and a whole number of 64 bits only if it is not the lowest
one and its digits fit. -/
def KeepsInteger (lenient : Bool) : Json → Prop
  | .bool b => lenient = true ∧ b = false
  | .number (.int i) => -(Text.signedBound : Int) ≤ i → i < Text.signedBound →
      i ≠ -(Text.signedBound : Int) ∧ IsExact i
  | _ => True

theorem isExact_zero : IsExact 0 := ⟨0, 0, rfl, by decide⟩

theorem reread?_bool (b : Bool) : reread? (.bool b) = none := by
  cases b <;> decide +kernel

theorem reread?_int_eq_iff {i : Int} (hlow : -(Text.signedBound : Int) ≤ i)
    (hhigh : i < Text.signedBound) :
    reread? (.number (.int i)) = some i ↔ i ≠ -(Text.signedBound : Int) ∧ IsExact i := by
  constructor
  · intro h
    obtain ⟨hexact, hlt⟩ := isExact_of_integerOfText?_int h
    exact ⟨by omega, hexact⟩
  · rintro ⟨hne, hexact⟩
    exact integerOfText?_int_of_isExact hexact (by omega)

theorem reread?_eq_iff {v : Json} (h : integer? (some v) ≠ none) :
    reread? v = integer? (some v) ↔ KeepsInteger false v := by
  cases v with
  | null => exact iff_of_true rfl trivial
  | bool b =>
    rw [reread?_bool]
    exact iff_of_false (fun heq => by cases heq) (fun hk => by cases hk.1)
  | string s => exact iff_of_true rfl trivial
  | array items => exact absurd rfl h
  | object members => exact absurd rfl h
  | number n =>
    cases n with
    | real x => exact iff_of_true (integerOfText?_real x) trivial
    | int i =>
      unfold integer? at h ⊢
      dsimp only at h ⊢
      split at h
      · next hrange =>
        rw [Bool.and_eq_true, decide_eq_true_eq, decide_eq_true_eq] at hrange
        rw [if_pos (by simpa using hrange), reread?_int_eq_iff hrange.1 hrange.2]
        exact ⟨fun hi _ _ => hi, fun hi => hi hrange.1 hrange.2⟩
      · exact absurd rfl h

theorem reread?_getD_eq_iff (v : Json) :
    (reread? v).getD 0 = (integer? (some v)).getD 0 ↔ KeepsInteger true v := by
  cases v with
  | null => exact iff_of_true rfl trivial
  | bool b =>
    rw [reread?_bool]
    cases b
    · exact iff_of_true rfl ⟨rfl, rfl⟩
    · exact iff_of_false (by decide) (by rintro ⟨_, h⟩; cases h)
  | string s => exact iff_of_true rfl trivial
  | array items =>
    have htext : reread? (.array items) = none := integerOfText?_of_bracket (by decide) _
    exact iff_of_true (by rw [htext]; rfl) trivial
  | object members =>
    have htext : reread? (.object members) = none := integerOfText?_of_bracket (by decide) _
    exact iff_of_true (by rw [htext]; rfl) trivial
  | number n =>
    cases n with
    | real x =>
      have htext : reread? (.number (.real x)) = integer? (some (.number (.real x))) :=
        integerOfText?_real x
      exact iff_of_true (by rw [htext]) trivial
    | int i =>
      unfold integer? KeepsInteger
      dsimp only
      split
      · next hrange =>
        rw [Bool.and_eq_true, decide_eq_true_eq, decide_eq_true_eq] at hrange
        rw [Option.getD_some]
        have hiff := reread?_int_eq_iff hrange.1 hrange.2
        refine ⟨fun h _ _ => ?_, fun h => by rw [hiff.2 (h hrange.1 hrange.2), Option.getD_some]⟩
        cases hread : reread? (.number (.int i)) with
        | some j =>
          rw [hread, Option.getD_some] at h
          exact hiff.1 (by rw [hread, h])
        | none =>
          -- what cannot be read counts as 0, which is not among the numbers that are lost
          rw [hread, Option.getD_none] at h
          subst h
          exact ⟨by decide, isExact_zero⟩
      · next hrange =>
        rw [Bool.and_eq_true, decide_eq_true_eq, decide_eq_true_eq, not_and] at hrange
        have hread : reread? (.number (.int i)) = none := integerOfText?_int_of_le (by omega)
        rw [hread]
        exact iff_of_true rfl fun hlow hhigh => absurd hhigh (hrange hlow)

end AccelForm
