/-
  Whole numbers as text

  A whole number is written with ASCII digits alone. Reading takes at least
  one digit; a reader of bounded numbers also takes one plus sign in front and
  refuses what the bound excludes.
-/

namespace AccelForm.Text

def digitValue (c : Char) : Nat := c.toNat - '0'.toNat

/-- The number that a row of ASCII digits spells. -/
def decimalValue (cs : List Char) : Nat :=
  cs.foldl (fun n c => 10 * n + digitValue c) 0

/-- Reads a row of one or more ASCII digits. -/
def natural? (cs : List Char) : Option Nat :=
  if cs.isEmpty || !cs.all Char.isDigit then none else some (decimalValue cs)

/-- Reads a whole number below `bound`, which one plus sign may precede. -/
def unsigned? (bound : Nat) (cs : List Char) : Option Nat :=
  let digits := match cs with
    | '+' :: rest => rest
    | _ => cs
  (natural? digits).filter (· < bound)

/-- One more than the largest number of 64 bits. -/
def wordBound : Nat := Nat.pow 2 64

/-- One more than the largest number of 64 bits of which one is a sign. -/
def signedBound : Nat := Nat.pow 2 63

/-- Reads a whole number of at most 64 bits. -/
def word? (s : String) : Option Nat :=
  unsigned? wordBound s.toList

/-- Reads a switch, which is spelled out in lower case. -/
def switch? (s : String) : Option Bool :=
  if s = "true" then some true else if s = "false" then some false else none

/-- Hexadecimal digits in lower case, `width` of them, the lowest last. -/
def hexDigits : Nat → Nat → List Char
  | 0, _ => []
  | width + 1, n => hexDigits width (n / 16) ++ [Nat.digitChar (n % 16)]

/-- The value of a hexadecimal digit of either case. -/
def hexValue? (c : Char) : Option Nat :=
  if c.isDigit then some (digitValue c)
  else if 'a' ≤ c && c ≤ 'f' then some (c.toNat - 'a'.toNat + 10)
  else if 'A' ≤ c && c ≤ 'F' then some (c.toNat - 'A'.toNat + 10)
  else none

/-- The ASCII letters of a text in lower case. -/
def lowerChars (cs : List Char) : List Char := cs.map Char.toLower

/-- A text with its ASCII letters in lower case. -/
def lower (s : String) : String := String.ofList (lowerChars s.toList)

end AccelForm.Text
