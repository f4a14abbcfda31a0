import AccelForm.Binary64.Shortest
import AccelForm.Text.Numeral
/-
  Reading binary64 numbers

  A decimal text is read as the number nearest to the real that it denotes.
  The text has an optional sign, digits with an optional point before, among
  or after them, and an optional exponent; the names of infinity and of what
  is not a number are read in any case of their letters.
-/

namespace AccelForm

namespace Decimal

/-- Exponents of ten past which every decimal is infinite or zero. -/
def exponentReach : Int := 400

/-- The number with the given sign that is nearest to the decimal. -/
def nearest (negative : Bool) (d : Decimal) : Binary64 :=
  let size := ((Finite64.decimalChars d.digits).length : Int) + d.exponent
  if d.digits = 0 || size < -exponentReach then .finite { Finite64.zero with negative := negative }
  else if exponentReach < size then .infinite negative
  else if 0 ≤ d.exponent then
    Binary64.ofFraction negative (d.digits * Nat.pow 10 d.exponent.toNat) 1
  else Binary64.ofFraction negative d.digits (Nat.pow 10 (-d.exponent).toNat)

/-- Takes a sign off the front of a text; true stands for a minus sign. -/
def takeSign : List Char → Bool × List Char
  | '-' :: rest => (true, rest)
  | '+' :: rest => (false, rest)
  | cs => (false, cs)

/-- Reads what follows the digits: nothing, or an exponent. -/
def exponent? : List Char → Option Int
  | [] => some 0
  | c :: rest =>
    if c = 'e' || c = 'E' then
      let (negative, digits) := takeSign rest
      (Text.natural? digits).map fun n => if negative then -(n : Int) else n
    else none

def read? (cs : List Char) : Option Decimal :=
  let whole := cs.takeWhile Char.isDigit
  let afterWhole := cs.dropWhile Char.isDigit
  let (fraction, rest) := match afterWhole with
    | '.' :: tail => (tail.takeWhile Char.isDigit, tail.dropWhile Char.isDigit)
    | _ => ([], afterWhole)
  let digits := whole ++ fraction
  if digits.isEmpty then none
  else (exponent? rest).map fun e => ⟨Text.decimalValue digits, e - fraction.length⟩

end Decimal

namespace Binary64

def read? (cs : List Char) : Option Binary64 :=
  let (negative, rest) := Decimal.takeSign cs
  let word := String.ofList (Text.lowerChars rest)
  if word = "inf" || word = "infinity" then some (.infinite negative)
  else if word = "nan" then some .nan
  else (Decimal.read? rest).map (Decimal.nearest negative)

end Binary64

end AccelForm
