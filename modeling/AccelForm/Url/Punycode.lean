/-
  Labels spelled in ASCII

  A label of a domain name with characters outside of ASCII is spelled by its
  ASCII characters, a hyphen, and the deltas that insert the others at their
  places, in the order of their code points. A delta is a number in digits of
  varying weight, which adapt to the deltas before it.
-/

namespace AccelForm.Url.Punycode

def digit (n : Nat) : Char :=
  if n < 26 then Char.ofNat (n + 'a'.toNat) else Char.ofNat (n - 26 + '0'.toNat)

/-- The number that a digit stands for. -/
def digitValue? (c : Char) : Option Nat :=
  if c.isLower then some (c.toNat - 'a'.toNat)
  else if c.isUpper then some (c.toNat - 'A'.toNat)
  else if c.isDigit then some (c.toNat - '0'.toNat + 26)
  else none

/-- Divides by 35 until what is left is small, counting the divisions by 36 each. -/
def settle (k d : Nat) : Nat :=
  if 455 < d then settle (k + 36) (d / 35) else k + 36 * d / (d + 38)
termination_by d
decreasing_by exact Nat.div_lt_self (by omega) (by omega)

/-- The bias after a delta that was written for `count` characters. -/
def adapt (delta count : Nat) (first : Bool) : Nat :=
  let d := if first then delta / 700 else delta / 2
  settle 0 (d + d / count)

def threshold (k bias : Nat) : Nat :=
  if k ≤ bias then 1 else if bias + 26 ≤ k then 26 else k - bias

/-- Every threshold is one or more, so what is left of a delta gets smaller with each digit. -/
theorem threshold_pos (k bias : Nat) : 1 ≤ threshold k bias := by
  unfold threshold
  split
  · omega
  · split <;> omega

/-- A delta as digits, the next one at distance `k`. -/
def deltaChars (k bias q : Nat) : List Char :=
  let t := threshold k bias
  if q < t then [digit q]
  else digit (t + (q - t) % (36 - t)) :: deltaChars (k + 36) bias ((q - t) / (36 - t))
termination_by q
decreasing_by
  have positive := threshold_pos k bias
  have smaller := Nat.div_le_self (q - threshold k bias) (36 - threshold k bias)
  omega

structure Progress where
  delta : Nat
  bias : Nat
  handled : Nat
  output : List Char

/-- Goes over the characters of a label and writes a delta where `n` stands. -/
def insertAll (basic n : Nat) (p : Progress) (label : List Nat) : Progress :=
  label.foldl (fun p c =>
    if c < n then { p with delta := p.delta + 1 }
    else if c = n then
      { delta := 0
        bias := adapt p.delta (p.handled + 1) (p.handled = basic)
        handled := p.handled + 1
        output := p.output ++ deltaChars 36 p.bias p.delta }
    else p) p

/-- The spelling of a label after the characters below `n` are in place. -/
def encodeFrom (label : List Nat) (basic : Nat) : Nat → Nat → Progress → List Char
  | 0, _, p => p.output
  | steps + 1, n, p =>
    match (label.filter (n ≤ ·)).min? with
    | none => p.output
    | some m =>
      let p := insertAll basic m { p with delta := p.delta + (m - n) * (p.handled + 1) } label
      encodeFrom label basic steps (m + 1) { p with delta := p.delta + 1 }

/-- The spelling of a label in ASCII. -/
def encode (label : List Char) : List Char :=
  let basic := label.filter (·.toNat < 128)
  let head := if basic.isEmpty then [] else basic ++ ['-']
  encodeFrom (label.map Char.toNat) basic.length label.length 128 ⟨0, 72, basic.length, head⟩

/-- What no delta and no weight of a digit reaches. -/
def deltaBound : Nat := Nat.pow 2 32

/-- Reads a delta onto `i`, the next digit being at distance `k` with weight `w`: the sum and what
follows the delta. -/
def delta? (bias k i w : Nat) : List Char → Option (Nat × List Char)
  | [] => none
  | c :: rest =>
    (digitValue? c).bind fun d =>
      let t := threshold k bias
      let sum := i + d * w
      let next := w * (36 - t)
      if deltaBound ≤ sum then none
      else if d < t then some (sum, rest)
      else if deltaBound ≤ next then none
      else delta? bias (k + 36) sum next rest

/-- Inserts the characters that at most `steps` deltas give; `n` and `i` are the code point and
the place from which the next delta counts. -/
def decodeFrom : Nat → Nat → Nat → Nat → List Char → List Char → Option (List Char)
  | 0, _, _, _, output, rest => if rest.isEmpty then some output else none
  | steps + 1, n, i, bias, output, rest =>
    if rest.isEmpty then some output else
    (delta? bias 36 i 1 rest).bind fun (sum, rest) =>
      let count := output.length + 1
      let code := n + sum / count
      let place := sum % count
      if code.isValidChar then
        decodeFrom steps code (place + 1) (adapt (sum - i) count (i = 0))
          (output.take place ++ Char.ofNat code :: output.drop place) rest
      else none

/-- The label that a spelling stands for. -/
def decode? (s : List Char) : Option (List Char) :=
  let tail := (s.reverse.takeWhile (· ≠ '-')).reverse
  let head := (s.take (s.length - tail.length)).dropLast
  if s.any (128 ≤ ·.toNat) || (head.isEmpty && tail.length < s.length) then none
  else decodeFrom tail.length 128 0 72 head tail

end AccelForm.Url.Punycode
