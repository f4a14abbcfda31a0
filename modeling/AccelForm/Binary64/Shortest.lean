import AccelForm.Binary64.Basic
/-
  The shortest decimal of a binary64 number

  The reals that round to a number form an interval around it. The decimal
  chosen for the number is the point of the coarsest decimal grid that has a
  point in this interval, so no decimal with fewer digits reads back as the
  number. Of two such points the nearer one is taken, and of two equally near
  ones the even one. On the grid of 10 ^ -1074 the number itself is a point,
  so the search always ends.
-/

namespace AccelForm

/-- A decimal number: digits and the power of ten that they count. -/
structure Decimal where
  digits : Nat
  exponent : Int
  deriving DecidableEq, Repr

namespace Finite64

/-- The lower end of the interval of the reals that round to the number, in half quanta. -/
def lowerEnd (x : Finite64) : Nat := codeQuanta (x.code - 1) + codeQuanta x.code

/-- The upper end of the interval of the reals that round to the number, in half quanta. -/
def upperEnd (x : Finite64) : Nat := codeQuanta x.code + codeQuanta (x.code + 1)

/-- The point of the grid of 10 ^ `k` that stands for the number, if the grid has one among
the reals that round to it. -/
def gridPoint? (x : Finite64) (k : Int) : Option Nat :=
  let scale := Nat.pow 10 (-k).toNat
  let unit := Nat.pow 10 k.toNat * quantaPerUnit
  let num := x.quanta * scale
  let closed := x.code % 2 == 0
  let below := num / unit
  let rest := num % unit
  let reachesBelow :=
    rest == 0 || x.lowerEnd * scale < 2 * below * unit ||
      (closed && x.lowerEnd * scale == 2 * below * unit)
  let reachesAbove :=
    2 * (below + 1) * unit < x.upperEnd * scale ||
      (closed && 2 * (below + 1) * unit == x.upperEnd * scale)
  if reachesBelow && reachesAbove then
    if 2 * rest < unit then some below
    else if unit < 2 * rest then some (below + 1)
    else some (below + below % 2)
  else if reachesBelow then some below
  else if reachesAbove then some (below + 1)
  else none

/-- The first grid point met when the grid is refined from 10 ^ `k` on, at most `steps` times. -/
def coarsest (x : Finite64) (k : Int) : Nat → Decimal
  | 0 => ⟨x.quanta * Nat.pow 5 1074, -1074⟩
  | steps + 1 =>
    match x.gridPoint? k with
    | some d => ⟨d, k⟩
    | none => x.coarsest (k - 1) steps

/-- The shortest decimal of the magnitude of a number that is not zero. -/
def shortest (x : Finite64) : Decimal := x.coarsest 309 1383

def decimalChars (n : Nat) : List Char := Nat.toDigits 10 n

/-- The digits with a point after the first, and the exponent with its sign. -/
def scientificChars (ds : List Char) (exponent : Int) : List Char :=
  let mantissa := match ds with
    | [] => []
    | [d] => [d]
    | d :: rest => d :: '.' :: rest
  let sign := if exponent < 0 then '-' else '+'
  mantissa ++ 'e' :: sign :: decimalChars exponent.natAbs

/-- The text of a magnitude: with a point and at least one digit after it from 0.00001 up to
below 10 ^ 16, else with an exponent. -/
def magnitudeChars (x : Finite64) : List Char :=
  if x.code = 0 then ['0', '.', '0'] else
  let d := x.shortest
  let ds := decimalChars d.digits
  let point := (ds.length : Int) + d.exponent
  if 0 ≤ d.exponent && point ≤ 16 then
    ds ++ List.replicate d.exponent.toNat '0' ++ ['.', '0']
  else if 0 < point && point ≤ 16 then
    ds.take point.toNat ++ '.' :: ds.drop point.toNat
  else if -5 < point && point ≤ 0 then
    '0' :: '.' :: List.replicate (-point).toNat '0' ++ ds
  else scientificChars ds (point - 1)

def chars (x : Finite64) : List Char :=
  if x.negative then '-' :: x.magnitudeChars else x.magnitudeChars

end Finite64

end AccelForm
