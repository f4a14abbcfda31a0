/-
  Character ranges: classes of characters given as ascending code point ranges

  A class of characters that a standard defines by a long list of code points
  is kept as a list of closed ranges in ascending order. Membership walks the
  list and stops at the first range that lies above the code point.
-/

namespace AccelForm.Text

/-- A closed range of code points, first and last. -/
abbrev CodeRange := Nat × Nat

/-- Whether a code point lies in one of the ranges, which are ascending. -/
def inRanges : List CodeRange → Nat → Bool
  | [], _ => false
  | (first, last) :: rest, n =>
    if n < first then false else if n ≤ last then true else inRanges rest n

end AccelForm.Text
