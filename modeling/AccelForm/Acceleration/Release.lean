import AccelForm.Acceleration.Setting
import AccelForm.Text.Blank
import AccelForm.Text.Numeral
/-
  Releases and what they offer

  The release of a server is a list of numbers. Releases are ordered number by
  number, a missing one counting as zero. Some settings exist only from a
  certain release on; a server whose release is unknown counts as the newest.
-/

namespace AccelForm

structure Release where
  parts : List Nat
  deriving Repr

namespace Release

/-- Compares number by number, a missing one counting as zero. -/
def compareParts : List Nat → List Nat → Ordering
  | [], [] => .eq
  | a :: as, [] => (compare a 0).then (compareParts as [])
  | [], b :: bs => (compare 0 b).then (compareParts [] bs)
  | a :: as, b :: bs => (compare a b).then (compareParts as bs)

def order (u v : Release) : Ordering := compareParts u.parts v.parts

/-- Releases are the same if neither is newer. -/
instance : BEq Release := ⟨fun u v => (u.order v).isEq⟩

/-- Whether a release is as new as another or newer. -/
def atLeast (u v : Release) : Bool := (u.order v).isGE

/-- The number that a part begins with, 0 if it begins with none or with one beyond 64 bits. -/
def partNumber (cs : List Char) : Nat :=
  (Text.unsigned? Text.wordBound (cs.takeWhile Char.isDigit)).getD 0

/-- Reads a release; what follows the digits of a part is ignored. -/
def read (s : String) : Release :=
  ⟨((Text.trimChars s.toList).splitOn '.').map partNumber⟩

def text (r : Release) : String := ".".intercalate (r.parts.map Nat.repr)

end Release

/-- Which settings a server offers beyond those that all releases have. -/
structure Features where
  schedulePriority : Bool
  pollBucketsUntilMaxtime : Bool
  tagsWhitelist : Bool
  deriving DecidableEq, Repr

namespace Features

def newest : Features := ⟨true, true, true⟩

def ofRelease (r : Release) : Features where
  schedulePriority := r.atLeast ⟨[6, 5]⟩
  pollBucketsUntilMaxtime := r.atLeast ⟨[6, 6]⟩
  tagsWhitelist := r.atLeast ⟨[6, 6, 4]⟩

def allows (f : Features) : Setting → Bool
  | .schedulePriority => f.schedulePriority
  | .pollBucketsUntilMaxtime => f.pollBucketsUntilMaxtime
  | _ => true

/-- The settings that can be edited, in the order of the form. -/
def settings (f : Features) : List Setting := Setting.all.filter f.allows

end Features

end AccelForm
