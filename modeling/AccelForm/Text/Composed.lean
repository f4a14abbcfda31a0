import AccelForm.Text.CombiningClass
import AccelForm.Text.Composition
/-
  Composed texts

  Two texts that look the same may differ in whether a letter and its marks
  are one character, and in the order of marks that do not touch. The composed
  form of a text takes all characters apart, puts marks in the order of their
  classes, and composes again what composes, so that such texts become one.
-/

namespace AccelForm.Text

/-- How deep compositions are nested. -/
def splitDepth : Nat := 4

/-- The characters that a character is composed of, down to `depth`. -/
def splitFully : Nat → Char → List Char
  | 0, c => [c]
  | depth + 1, c =>
    match split? c with
    | none => [c]
    | some (a, b) => splitFully depth a ++ [b]

/-- Puts a character in front, a mark behind the marks of lower classes. -/
def place (c : Char) : List Char → List Char
  | [] => [c]
  | d :: rest =>
    if combiningClass d ≠ 0 && combiningClass d < combiningClass c then d :: place c rest
    else c :: d :: rest

/-- The characters with the marks in the order of their classes. -/
def ordered : List Char → List Char
  | [] => []
  | c :: rest => place c (ordered rest)

/-- Whether a mark keeps a later character from what is in front of the mark. -/
def isBlocked (marks : List Char) (c : Char) : Bool :=
  match marks with
  | [] => false
  | m :: _ => combiningClass c ≤ combiningClass m

/-- Composes characters with the one in front of them; `marks` are those in between that did not
compose, the latest first. -/
def composeFrom (front : Char) (marks : List Char) : List Char → List Char
  | [] => front :: marks.reverse
  | c :: rest =>
    match if isBlocked marks c then none else compose? front c with
    | some whole => composeFrom whole marks rest
    | none =>
      if combiningClass c = 0 then front :: marks.reverse ++ composeFrom c [] rest
      else composeFrom front (c :: marks) rest

def composed (cs : List Char) : List Char :=
  match ordered (cs.flatMap (splitFully splitDepth)) with
  | [] => []
  | c :: rest => composeFrom c [] rest

end AccelForm.Text
