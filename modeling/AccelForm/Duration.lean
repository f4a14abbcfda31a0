import AccelForm.Binary64.Basic
/-
  Durations

  A duration is a whole number of nanoseconds. Its text has the largest unit
  that does not exceed it, and a fraction without zeros at the end.
-/

namespace AccelForm

/-- A length of time. -/
structure Duration where
  nanos : Nat
  deriving DecidableEq, Repr

namespace Duration

def nanosPerSecond : Nat := 1000000000

def ofSeconds (n : Nat) : Duration := ⟨n * nanosPerSecond⟩

def ofMillis (n : Nat) : Duration := ⟨n * 1000000⟩

def wholeSeconds (d : Duration) : Nat := d.nanos / nanosPerSecond

/-- A natural number in decimal with zeros in front up to a width. -/
def paddedChars (width n : Nat) : List Char :=
  let digits := Nat.toDigits 10 n
  List.replicate (width - digits.length) '0' ++ digits

/-- Digits without the zeros at their end. -/
def trimZeros (digits : List Char) : List Char :=
  (digits.reverse.dropWhile (· == '0')).reverse

/-- A number of nanoseconds counted in units of 10 ^ `places` nanoseconds. -/
def countChars (places nanos : Nat) : List Char :=
  let unit := Nat.pow 10 places
  let whole := Nat.toDigits 10 (nanos / unit)
  match trimZeros (paddedChars places (nanos % unit)) with
  | [] => whole
  | fraction => whole ++ '.' :: fraction

def text (d : Duration) : String :=
  if 1000000000 ≤ d.nanos then String.ofList (countChars 9 d.nanos) ++ "s"
  else if 1000000 ≤ d.nanos then String.ofList (countChars 6 d.nanos) ++ "ms"
  else if 1000 ≤ d.nanos then String.ofList (countChars 3 d.nanos) ++ "µs"
  else toString d.nanos ++ "ns"

/-- The duration in seconds: the whole seconds and the rest, each rounded, then added. -/
def seconds (d : Duration) : Binary64 :=
  (Binary64.ofNat d.wholeSeconds).addMagnitudes
    (Binary64.ofFraction false (d.nanos % nanosPerSecond) nanosPerSecond)

end Duration

end AccelForm
