/-
  Binary64 numbers, exactly

  A finite number is a sign and a magnitude. The magnitudes are counted from
  zero upward: the count, called the code, is what the exponent bits and the
  fraction bits spell when they are read as one number. Every magnitude is a
  whole number of quanta, a quantum being 2 ^ -1074, so that comparison and
  arithmetic are exact computations on natural numbers followed by one
  rounding to the nearest code, a tie going to the even one.
-/

namespace AccelForm

/-- How many codes share their exponent bits: one for each row of fraction bits. -/
def fractionCount : Nat := Nat.pow 2 52

/-- The code that follows the largest finite magnitude. -/
def infinityCode : Nat := 2047 * fractionCount

def signBit : Nat := Nat.pow 2 63

structure Finite64 where
  negative : Bool
  code : Nat
  code_lt : code < infinityCode
  deriving DecidableEq, Repr

/-- A binary64 number; what is not a number has no sign. -/
inductive Binary64 where
  | finite (x : Finite64)
  | infinite (negative : Bool)
  | nan
  deriving DecidableEq, Repr

def quantaPerUnit : Nat := Nat.pow 2 1074

/-- The magnitude of a code, in quanta. -/
def codeQuanta (code : Nat) : Nat :=
  if code < fractionCount then code
  else (fractionCount + code % fractionCount) * Nat.pow 2 (code / fractionCount - 1)

/-- The quotient rounded to the nearest whole number, a tie going to the even one. -/
def roundDiv (num den : Nat) : Nat :=
  let q := num / den
  let r := num % den
  if 2 * r < den then q
  else if den < 2 * r then q + 1
  else q + q % 2

/-- How many low binary digits of a magnitude of `n` quanta a number of 53 digits drops. -/
def droppedDigits (n : Nat) : Nat := n.log2 + 1 - 53

/-- The code nearest to `num / den` quanta, past the largest finite one the infinite code. -/
def roundCode (num den : Nat) : Nat :=
  let drop := droppedDigits (num / den)
  min (drop * fractionCount + roundDiv num (den * Nat.pow 2 drop)) infinityCode

namespace Finite64

def zero : Finite64 := ⟨false, 0, by decide⟩

def neg (x : Finite64) : Finite64 := { x with negative := !x.negative }

def quanta (x : Finite64) : Nat := codeQuanta x.code

/-- The place of the number on the line, on which both zeros have place 0. -/
def place (x : Finite64) : Int := if x.negative then -(x.code : Int) else x.code

def whole? (x : Finite64) : Option Int :=
  if x.quanta % quantaPerUnit = 0 then
    let n := x.quanta / quantaPerUnit
    some (if x.negative then -(n : Int) else n)
  else none

def bits (x : Finite64) : Nat := (if x.negative then signBit else 0) + x.code

end Finite64

namespace Binary64

/-- The number with the given sign that is nearest to `num / den` quanta. -/
def ofQuanta (negative : Bool) (num den : Nat) : Binary64 :=
  let code := roundCode num den
  if h : code < infinityCode then .finite ⟨negative, code, h⟩ else .infinite negative

/-- The number with the given sign that is nearest to the fraction `num / den`. -/
def ofFraction (negative : Bool) (num den : Nat) : Binary64 :=
  ofQuanta negative (num * quantaPerUnit) den

def ofNat (n : Nat) : Binary64 := ofFraction false n 1

def finite? : Binary64 → Option Finite64
  | .finite x => some x
  | _ => none

def neg : Binary64 → Binary64
  | .finite x => .finite x.neg
  | .infinite n => .infinite !n
  | .nan => .nan

def mul : Binary64 → Binary64 → Binary64
  | .finite x, .finite y =>
    ofQuanta (x.negative != y.negative) (x.quanta * y.quanta) quantaPerUnit
  | .finite x, .infinite n => if x.code = 0 then .nan else .infinite (x.negative != n)
  | .infinite n, .finite x => if x.code = 0 then .nan else .infinite (n != x.negative)
  | .infinite n, .infinite m => .infinite (n != m)
  | _, _ => .nan

/-- The quotient of finite numbers, rounded once; the divisor is not zero. -/
def div (x y : Finite64) : Binary64 :=
  ofFraction (x.negative != y.negative) x.quanta y.quanta

/-- The place in the total order: the finite numbers between the infinities, negative zero
right below zero, and what is not a number above all. -/
def rank : Binary64 → Int
  | .finite x => if x.negative then -(x.code : Int) - 1 else x.code
  | .infinite false => infinityCode
  | .infinite true => -(infinityCode : Int) - 1
  | .nan => infinityCode + 1

/-- The total order, which tells the two zeros apart. -/
def totalCompare (x y : Binary64) : Ordering := compare x.rank y.rank

/-- Whether the first number is the larger one; never so for what is not a number. -/
def above : Binary64 → Binary64 → Bool
  | .finite x, .finite y => y.place < x.place
  | .finite _, .infinite n => n
  | .infinite n, .finite _ => !n
  | .infinite n, .infinite m => !n && m
  | _, _ => false

def bits : Binary64 → Nat
  | .finite x => x.bits
  | .infinite n => (if n then signBit else 0) + infinityCode
  | .nan => infinityCode + fractionCount / 2

/-- The sum of two numbers that are not negative, rounded once. -/
def addMagnitudes : Binary64 → Binary64 → Binary64
  | .finite x, .finite y => ofQuanta false (x.quanta + y.quanta) 1
  | .nan, _ => .nan
  | _, .nan => .nan
  | _, _ => .infinite false

end Binary64

end AccelForm
