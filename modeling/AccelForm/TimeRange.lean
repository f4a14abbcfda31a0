import AccelForm.Binary64.Basic
import AccelForm.Text.Digit
import AccelForm.Text.Numeral
/-
  Time ranges

  A time range says how far back a summary reaches: a minus sign, a count and
  a unit, or "0" for all time. The empty text also stands for all time where a
  range is compared. Ranges are ordered by their span in days, then by the
  weight of their unit, then as texts, so that two different texts are never
  equal. A text that names no count and unit counts as no time at all.
-/

namespace AccelForm

inductive TimeUnit where
  | second
  | hour
  | day
  | week
  | month
  | quarter
  | year
  deriving DecidableEq, Repr

namespace TimeUnit

def ofLetter? (c : Char) : Option TimeUnit :=
  if c = 's' then some .second
  else if c = 'h' then some .hour
  else if c = 'd' then some .day
  else if c = 'w' then some .week
  else if c = 'm' then some .month
  else if c = 'q' then some .quarter
  else if c = 'y' then some .year
  else none

/-- The span of one unit in days. -/
def weight : TimeUnit → Binary64
  | .second => Binary64.ofFraction false 1 86400
  | .hour => Binary64.ofFraction false 1 24
  | .day => Binary64.ofNat 1
  | .week => Binary64.ofNat 7
  | .month => Binary64.ofNat 30
  | .quarter => Binary64.ofNat 90
  | .year => Binary64.ofNat 365

def words : List String :=
  ["s", "second", "seconds", "h", "hour", "hours", "d", "day", "days", "mon", "month", "months",
    "y", "yr", "yrs", "year", "years", "w", "week", "weeks", "q", "qtr", "qtrs", "quarter",
    "quarters"]

end TimeUnit

namespace TimeRange

/-- The range that reaches back without end. -/
def allTime : String := "0"

def isAllTime (s : String) : Bool := s = "" || s = allTime

/-- Takes a minus sign and a row of digits of any script off the front. -/
def takeCount? : List Char → Option (List Char × List Char)
  | '-' :: rest =>
    let digits := rest.takeWhile Text.isDecimalDigit
    if digits.isEmpty then none else some (digits, rest.dropWhile Text.isDecimalDigit)
  | _ => none

def isValid (s : String) : Bool :=
  s = allTime ||
    match takeCount? s.toList with
    | some (_, unit) => TimeUnit.words.contains (String.ofList unit)
    | none => false

/-- The number that a row of digits stands for; only ASCII digits carry a value. -/
def countValue (digits : List Char) : Binary64 :=
  match Text.natural? digits with
  | some n => Binary64.ofNat n
  | none => .finite Finite64.zero

/-- The count and the unit that a text begins with. -/
def leading? (cs : List Char) : Option (Binary64 × TimeUnit) :=
  match takeCount? cs with
  | some (digits, c :: _) => (TimeUnit.ofLetter? c).map fun u => (countValue digits, u)
  | _ => none

/-- What a range is ordered by: its span in days, and the weight of its unit. -/
def measure (s : String) : Binary64 × Binary64 :=
  if isAllTime s then (.infinite false, .infinite false)
  else match leading? s.toList with
    | some (count, unit) => (count.mul unit.weight, unit.weight)
    | none => (.finite Finite64.zero, .finite Finite64.zero)

/-- The span of a range in days. -/
def span (s : String) : Binary64 := (measure s).1

def unitWeight (s : String) : Binary64 := (measure s).2

/-- Orders two ranges, the one that reaches back less far first. -/
def order (a b : String) : Ordering :=
  if a = b then .eq
  else ((span a).totalCompare (span b)).then
    (((unitWeight a).totalCompare (unitWeight b)).then (compareOfLessAndEq a b))

end TimeRange

end AccelForm
