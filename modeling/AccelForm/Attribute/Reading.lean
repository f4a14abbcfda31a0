import AccelForm.Attribute.Bag
import AccelForm.Json.Writer
import AccelForm.Binary64.Reading
import AccelForm.Text.Blank
/-
  Reading attribute values

  An attribute may be spelled in several ways: a switch as a JSON boolean, a
  number or a word, an integer as a number or a text. Whatever spelling is
  outside the table reads as nothing, never as a guess. An attribute that is
  missing or null has the empty text and counts as the integer 0.
-/

namespace AccelForm

def onWords : List String := ["true", "1", "yes", "on"]

def offWords : List String := ["false", "0", "no", "off"]

/-- Reads a word for on or off in any case of its letters. -/
def flagOfWord? (s : String) : Option Bool :=
  let w := Text.lower s
  if onWords.contains w then some true
  else if offWords.contains w then some false
  else none

def oneCode : Nat := 1023 * fractionCount

def flag? : Json → Option Bool
  | .bool b => some b
  | .number (.int i) => if i = 1 then some true else if i = 0 then some false else none
  | .number (.real x) =>
    if x.code = 0 then some false
    else if x.code = oneCode && !x.negative then some true
    else none
  | .string s => flagOfWord? s
  | _ => none

def flagNumber (b : Bool) : Int := if b then 1 else 0

def flagValue (b : Bool) : Json := .number (.int (flagNumber b))

def valueText : Option Json → String
  | none => ""
  | some .null => ""
  | some (.string s) => s
  | some v => v.compact

/-- The integer that a binary64 number equals, if it is small enough. -/
def integerOfReal? (x : Finite64) : Option Int :=
  x.whole?.filter fun i => i.natAbs < Text.signedBound

def integerOfText? (s : String) : Option Int :=
  let cs := Text.trimChars s.toList
  if cs.isEmpty then some 0
  else ((Binary64.read? cs).bind Binary64.finite?).bind integerOfReal?

def integer? : Option Json → Option Int
  | none => some 0
  | some .null => some 0
  | some (.bool b) => some (flagNumber b)
  | some (.number (.int i)) =>
    if -(Text.signedBound : Int) ≤ i && i < Text.signedBound then some i else none
  | some (.number (.real x)) => integerOfReal? x
  | some (.string s) => integerOfText? s
  | some (.array _) => none
  | some (.object _) => none

end AccelForm
