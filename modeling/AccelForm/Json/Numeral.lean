import AccelForm.Json.Value
import AccelForm.Binary64.Reading
/-
  JSON numerals

  A numeral without fraction and exponent that fits 64 bits, signed or not, is
  a whole number. Every other one is a binary64 number: its leading digits, as
  many as fit an unsigned number of 64 bits, are rounded, and the result is
  multiplied or divided by the rounded power of ten. A numeral too large for a
  finite number has no value, and the negative zero is a binary64 number.
-/

namespace AccelForm.Json

/-- A numeral as spelled: sign, digits before the point, digits after it, exponent. -/
structure Numeral where
  negative : Bool
  whole : List Char
  fraction : List Char
  exponent : Option Int
  deriving DecidableEq, Repr

/-- Takes digits onto a number for as long as the result fits 64 bits; what does not fit stays. -/
def absorb (n : Nat) : List Char → Nat × List Char
  | [] => (n, [])
  | c :: rest =>
    let next := 10 * n + Text.digitValue c
    if next < Text.wordBound then absorb next rest else (n, c :: rest)

/-- The number rounded from a power of ten that is finite. -/
def powerOfTen (n : Nat) : Finite64 :=
  ((Binary64.ofNat (Nat.pow 10 n)).finite?).getD Finite64.zero

/-- Divides by a power of ten. -/
def unscale (x : Finite64) (n : Nat) : Finite64 :=
  ((Binary64.div x (powerOfTen n)).finite?).getD Finite64.zero

/-- The product of a number and a power of ten, if it is finite. Below 10 ^ -308 the power is
applied in two steps, and below 10 ^ -616 nothing is left. -/
def scale? (x : Finite64) (e : Int) : Option Finite64 :=
  if x.code = 0 then some x
  else if 308 < e then none
  else if 0 ≤ e then (Binary64.mul (.finite x) (.finite (powerOfTen e.toNat))).finite?
  else if -308 ≤ e then some (unscale x (-e).toNat)
  else if -616 ≤ e then some (unscale (unscale x 308) (-(e + 308)).toNat)
  else some Finite64.zero

def Numeral.real? (n : Numeral) : Option Finite64 :=
  let (head, left) := absorb 0 n.whole
  let (digits, unread) := absorb head n.fraction
  let places := (left.length : Int) - (n.fraction.length - unread.length : Nat)
  let magnitude := ((Binary64.ofNat digits).finite?).getD Finite64.zero
  (scale? magnitude (places + n.exponent.getD 0)).map fun x => { x with negative := n.negative }

def Numeral.value? (n : Numeral) : Option Number :=
  let whole := Text.decimalValue n.whole
  if n.fraction.isEmpty && n.exponent.isNone then
    if !n.negative && whole < Text.wordBound then some (.int whole)
    else if n.negative && 0 < whole && whole ≤ Text.signedBound then some (.int (-(whole : Int)))
    else n.real?.map .real
  else n.real?.map .real

/-- Reads the part of a numeral after its sign. -/
def Numeral.readUnsigned? (negative : Bool) (cs : List Char) : Option Numeral :=
  let whole := cs.takeWhile Char.isDigit
  let rest := cs.dropWhile Char.isDigit
  if whole.isEmpty || (whole.head? == some '0' && 1 < whole.length) then none
  else
    let finish (fraction tail : List Char) : Option Numeral :=
      match tail with
      | [] => some ⟨negative, whole, fraction, none⟩
      | _ => (Decimal.exponent? tail).map fun e => ⟨negative, whole, fraction, some e⟩
    match rest with
    | '.' :: tail =>
      let fraction := tail.takeWhile Char.isDigit
      if fraction.isEmpty then none else finish fraction (tail.dropWhile Char.isDigit)
    | _ => finish [] rest

def Numeral.read? : List Char → Option Numeral
  | '-' :: rest => readUnsigned? true rest
  | cs => readUnsigned? false cs

end AccelForm.Json
