/-
  Blank characters and trimming

  Blank characters are those of the Unicode property White_Space. Trimming
  removes them from both ends of a text and leaves the inside alone.
-/

namespace AccelForm.Text

/-- Whether a character has the property White_Space. -/
def isBlank (c : Char) : Bool :=
  let n := c.toNat
  (9 ≤ n && n ≤ 13) || n == 0x20 || n == 0x85 || n == 0xa0 || n == 0x1680 ||
    (0x2000 ≤ n && n ≤ 0x200a) || n == 0x2028 || n == 0x2029 || n == 0x202f ||
    n == 0x205f || n == 0x3000

/-- The characters without the ones at the end that satisfy `p`. -/
def dropEnd (p : Char → Bool) : List Char → List Char
  | [] => []
  | c :: rest =>
    match dropEnd p rest with
    | [] => if p c then [] else [c]
    | kept => c :: kept

/-- The characters without the blanks at either end. -/
def trimChars (cs : List Char) : List Char :=
  dropEnd isBlank (cs.dropWhile isBlank)

/-- A text without the blanks at either end. -/
def trim (s : String) : String :=
  String.ofList (trimChars s.toList)

def isBlankText (s : String) : Bool :=
  s.toList.all isBlank

/-- A text that ends in a kept character keeps all of it. -/
theorem dropEnd_eq_nil_iff (p : Char → Bool) (cs : List Char) :
    dropEnd p cs = [] ↔ cs.all p = true := by
  induction cs with
  | nil => simp [dropEnd]
  | cons c rest ih =>
    unfold dropEnd
    cases h : dropEnd p rest with
    | nil =>
      have hr : rest.all p = true := ih.1 h
      by_cases hc : p c <;> simp [hc, hr]
    | cons d kept =>
      have hr : ¬ rest.all p = true := fun hall => by simp [ih.2 hall] at h
      simp [hr]

/-- Trimming leaves nothing exactly of a text of blanks. -/
theorem trimChars_eq_nil_iff (cs : List Char) :
    trimChars cs = [] ↔ cs.all isBlank = true := by
  unfold trimChars
  rw [dropEnd_eq_nil_iff]
  induction cs with
  | nil => simp
  | cons c rest ih => by_cases hc : isBlank c <;> simp [hc, ih]

end AccelForm.Text
