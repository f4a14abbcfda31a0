import AccelForm.Json.Document
import AccelForm.Text.Blank
/-
  Records read from documents

  A record is an object with named fields, or the array of their values in
  order. In an object unknown names are ignored and a known name may occur
  once; an array may end early but must not go on after the last field. Each
  field has a reader. What is missing has a default, or makes the record
  unreadable; null is a value like any other and counts only for a reader that
  takes it.
-/

namespace AccelForm.Json

/-- Reads a document; the number is one more than the levels it may be nested. -/
abbrev Reader (α : Type) := Nat → Document → Option α

/-- The fields of a record that were found, and how deep their values may be nested. -/
structure Fields where
  room : Nat
  found : List (String × Document)

namespace Fields

/-- The members of an object that have one of the given names, each of them once. -/
def ofMembers? (names : List String) : List (Option String × Document) →
    List (String × Document) → Option (List (String × Document))
  | [], found => some found.reverse
  | (none, _) :: _, _ => none
  | (some key, d) :: rest, found =>
    if names.contains key then
      if (found.lookup key).isSome then none else ofMembers? names rest ((key, d) :: found)
    else ofMembers? names rest found

/-- The fields with the given names in an object. -/
def ofObject? (names : List String) (room : Nat) : Document → Option Fields
  | .object members =>
    if room ≤ 1 then none else (ofMembers? names members []).map (Fields.mk (room - 1))
  | _ => none

/-- The fields with the given names in an object, or by position in an array. -/
def read? (names : List String) (room : Nat) : Document → Option Fields
  | .array items =>
    if room ≤ 1 || names.length < items.length then none
    else some ⟨room - 1, names.zip items⟩
  | d => ofObject? names room d

def required (fs : Fields) (name : String) (r : Reader α) : Option α :=
  (fs.found.lookup name).bind (r fs.room)

def getD (fs : Fields) (name : String) (default : α) (r : Reader α) : Option α :=
  match fs.found.lookup name with
  | none => some default
  | some d => r fs.room d

end Fields

namespace Reader

def value : Reader Json := fun room d => d.value? room

def text : Reader String
  | _, .string s => s
  | _, _ => none

/-- A boolean. -/
def switch : Reader Bool
  | _, .bool b => some b
  | _, _ => none

/-- A whole number of at most 64 bits. -/
def word : Reader Nat
  | _, .number (some (.int i)) =>
    if 0 ≤ i && i < Text.wordBound then some i.toNat else none
  | _, _ => none

/-- A value, or null for none. -/
def optional (r : Reader α) : Reader (Option α)
  | _, .null => some none
  | room, d => (r room d).map some

def list (r : Reader α) : Reader (List α)
  | room, .array items => if room ≤ 1 then none else items.mapM (r (room - 1))
  | _, _ => none

/-- The members of an object, whatever their names, in the order in which they came. -/
def members (r : Reader α) : Reader (List (String × α))
  | room, .object ms =>
    if room ≤ 1 then none
    else ms.mapM fun (key, d) => key.bind fun k => (r (room - 1) d).map (k, ·)
  | _, _ => none

/-- The words that switch something on. -/
def onSpellings : List String := ["1", "true", "yes", "on", "t", "y"]

/-- A switch in one of its many spellings; unknown words and null are off. -/
def looseSwitch : Reader Bool := fun room d =>
  (value room d).bind fun
    | .null => some false
    | .bool b => some b
    | .number (.int i) => if i < Text.signedBound then some (i != 0) else none
    | .string s => some (onSpellings.contains (Text.lower (Text.trim s)))
    | _ => none

/-- A whole number of at most 64 bits, also as text; null and blank text are none. -/
def looseWord : Reader (Option Nat) := fun room d =>
  (value room d).bind fun
    | .null => some none
    | .number (.int i) => if 0 ≤ i then some (some i.toNat) else none
    | .string s =>
      if Text.isBlankText s then some none else (Text.word? (Text.trim s)).map some
    | _ => none

def run (r : Reader α) (s : String) : Option α := (Document.read? s).bind (r fullRoom)

end Reader

end AccelForm.Json
