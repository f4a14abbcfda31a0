import AccelForm.Text.Composed
import AccelForm.Url.Admitted
import AccelForm.Url.Direction
import AccelForm.Url.Joining
import AccelForm.Url.PlainForm
import AccelForm.Url.Punycode
/-
  Domain names

  A domain name is put into its plain and composed form and cut at its points
  into labels. A label with characters outside of ASCII is spelled in ASCII
  behind a mark; one that comes with the mark must be the spelling of a label
  in plain form. All labels are checked for what they show, not for how they
  are spelled.
-/

namespace AccelForm.Url

/-- The plain form of a character that a name may be written with. -/
def plainChars? (c : Char) : Option (List Char) :=
  if c.toNat < 128 then some [c.toLower]
  else if !isAdmitted c then none
  else if isTraceless c then some []
  else some ((plainForm? c).getD [c])

def plainName? (name : List Char) : Option (List Char) :=
  (name.mapM plainChars?).map fun forms => Text.composed forms.flatten

def isAscii (cs : List Char) : Bool := cs.all (·.toNat < 128)

/-- What a label spelled in ASCII begins with. -/
def labelMark : List Char := ['x', 'n', '-', '-']

/-- The largest number of characters of a label that is not of ASCII. -/
def maxLabel : Nat := 1000

/-- The largest number of characters that spell a label, the mark apart. -/
def maxSpelling : Nat := 2000

/-- The characters that a label shows: those that it spells, or its own. -/
def shown? (label : List Char) : Option (List Char) :=
  if label.take 4 = labelMark then
    let spelling := label.drop 4
    if maxSpelling < spelling.length then none
    else (Punycode.decode? spelling).filter fun cs => !isAscii cs && plainName? cs = some cs
  else some label

def nonJoiner : Char := '\u200c'

def joiner : Char := '\u200d'

/-- Whether a joiner or a non-joiner has an effect; the characters before it are in reverse. -/
def joinerFits (c : Char) (before after : List Char) : Bool :=
  match before with
  | [] => false
  | b :: _ =>
    Text.combiningClass b = Text.viramaClass ||
      (c = nonJoiner && reaches [.both, .onlyNext] before && reaches [.both, .onlyPrevious] after)

/-- Whether all joiners and non-joiners have an effect; the characters before are in reverse. -/
def joinersFit (before : List Char) : List Char → Bool
  | [] => true
  | c :: rest =>
    ((c ≠ joiner && c ≠ nonJoiner) || joinerFits c before rest) && joinersFit (c :: before) rest

/-- Whether a name may have a label that shows these characters. -/
def labelFits (cs : List Char) : Bool :=
  !cs.any isForbidden && !cs.head?.any Text.isMark && joinersFit [] cs &&
    (isAscii cs || cs.length ≤ maxLabel)

/-- Whether labels show in one piece each: all of them keep to the rules of direction if any of
them has a character that turns. -/
def labelsAgree (labels : List (List Char)) : Bool :=
  let directions := labels.map (·.map direction)
  !directions.any (·.any Direction.isTurning) || directions.all directionsFit

def asciiLabel (label : List Char) : List Char :=
  if isAscii label then label else labelMark ++ Punycode.encode label

def asciiDomain? (name : List Char) : Option (List Char) := do
  let labels := (← plainName? name).splitOn '.'
  let shown ← labels.mapM shown?
  if shown.all labelFits && labelsAgree shown then
    return ['.'].intercalate (labels.map asciiLabel)
  else none

end AccelForm.Url
