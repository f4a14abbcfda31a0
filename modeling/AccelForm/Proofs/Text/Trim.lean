import AccelForm.Text.Blank
import AccelForm.Text.Word
import Mathlib.Data.List.DropRight
/-
  Trimmed texts

  Trimming removes blanks from the ends only: it leaves a text alone that
  neither begins nor ends with one, so what was trimmed once stays as it is.
  No blank is a word character, and a run of word characters is therefore
  trimmed already.
-/

namespace AccelForm.Text

/-! ## Trimming twice -/

theorem dropEnd_eq_rdropWhile (p : Char → Bool) (cs : List Char) :
    dropEnd p cs = cs.rdropWhile p := by
  induction cs with
  | nil => rfl
  | cons c rest ih =>
    rw [dropEnd, ih]
    unfold List.rdropWhile
    rw [List.reverse_cons, List.dropWhile_append]
    -- the first character is at the end once all others are gone
    cases h : rest.reverse.dropWhile p with
    | nil => cases hc : p c <;> simp [hc]
    | cons d kept => simp

theorem trimChars_eq (cs : List Char) :
    trimChars cs = (cs.dropWhile isBlank).rdropWhile isBlank := dropEnd_eq_rdropWhile _ _

theorem trimChars_sublist (cs : List Char) : (trimChars cs).Sublist cs := by
  rw [trimChars_eq]
  exact (List.rdropWhile_prefix isBlank _).sublist.trans (List.dropWhile_sublist isBlank)

/-- A prefix of what begins with no blank begins with none. -/
theorem dropWhile_isBlank_of_prefix {cs ds : List Char} (h : ds <+: cs.dropWhile isBlank) :
    ds.dropWhile isBlank = ds := by
  rw [List.dropWhile_eq_self_iff]
  intro hpos
  have hlen : 0 < (cs.dropWhile isBlank).length := Nat.lt_of_lt_of_le hpos h.length_le
  rw [h.getElem hpos]
  exact List.dropWhile_get_zero_not isBlank cs hlen

theorem trimChars_trimChars (cs : List Char) : trimChars (trimChars cs) = trimChars cs := by
  rw [trimChars_eq cs, trimChars_eq, dropWhile_isBlank_of_prefix (List.rdropWhile_prefix isBlank _),
    List.rdropWhile_idempotent]

theorem trimChars_eq_self {cs : List Char} (h : ∀ c ∈ cs, isBlank c = false) :
    trimChars cs = cs := by
  have hfront : cs.dropWhile isBlank = cs := by
    rw [List.dropWhile_eq_self_iff]
    intro hpos
    simp [h cs[0] (List.getElem_mem hpos)]
  rw [trimChars_eq, hfront, List.rdropWhile_eq_self_iff]
  intro hne
  simp [h _ (List.getLast_mem hne)]

/-- A text keeps its first character when it is trimmed, if that is not blank. -/
theorem head?_trimChars {c : Char} (h : isBlank c = false) (rest : List Char) :
    (trimChars (c :: rest)).head? = some c := by
  rw [trimChars, List.dropWhile_cons, h]
  show (dropEnd isBlank (c :: rest)).head? = some c
  rw [dropEnd]
  split
  · simp [h]
  · rfl

/-! ## Blanks and words -/

def blankCodes : List Nat :=
  List.range' 9 5 ++ [0x20, 0x85, 0xa0, 0x1680] ++ List.range' 0x2000 11 ++
    [0x2028, 0x2029, 0x202f, 0x205f, 0x3000]

theorem toNat_mem_blankCodes {c : Char} (h : isBlank c = true) : c.toNat ∈ blankCodes := by
  simp only [isBlank, Bool.or_eq_true, Bool.and_eq_true, decide_eq_true_eq, beq_iff_eq] at h
  simp only [blankCodes, List.mem_append, List.mem_range'_1, List.mem_cons, List.not_mem_nil]
  omega

theorem isWord_ofNat_of_mem_blankCodes :
    ∀ n ∈ blankCodes, isWord (Char.ofNat n) = false := by decide +kernel

theorem isWord_of_isBlank {c : Char} (h : isBlank c = true) : isWord c = false := by
  have hword := isWord_ofNat_of_mem_blankCodes c.toNat (toNat_mem_blankCodes h)
  rwa [Char.ofNat_toNat] at hword

end AccelForm.Text
