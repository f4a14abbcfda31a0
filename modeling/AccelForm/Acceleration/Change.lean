import AccelForm.Acceleration.Release
import AccelForm.Attribute.Reading
/-
  Changes to attributes

  Two bags are compared after their provenance is dropped and two of their
  switches are put into one spelling. A change is sent as form parameters,
  which hold only attributes that the server offers for editing.
-/

namespace AccelForm

/-- The switches whose spelling varies between reads and writes. -/
def respelledSettings : List Setting := [.enabled, .manualRebuilds]

namespace Bag

/-- The bag with one switch spelled as a number, where it can be read. -/
def respell (b : Bag) (s : Setting) : Bag :=
  match (b.get? s.attributeName).bind flag? with
  | some on => b.insert s.attributeName (flagValue on)
  | none => b

/-- The bag without what does not count in a comparison. -/
def comparable (b : Bag) : Bag :=
  respelledSettings.foldl respell (provenanceAttributes.foldl erase b)

/-- Whether two bags differ in anything that counts. -/
def differs (previous current : Bag) : Bool := !previous.comparable.same current.comparable

def holds (b : Bag) (e : String × Json) : Bool :=
  match b.get? e.1 with
  | some v => v.same e.2
  | none => false

/-- The attributes in which two bags differ: those of the current bag in their order, then
those that only the previous one has. -/
def changedKeys (previous current : Bag) : List String :=
  let p := previous.comparable
  let c := current.comparable
  (c.entries.filter (!p.holds ·)).map Prod.fst ++ p.keys.filter (!c.contains ·)

/-- The text in which a setting is sent: a switch as 1 or 0 where it can be read. -/
def sentText (s : Setting) (v : Json) : String :=
  match s.isSwitch, flag? v with
  | true, some on => if on then "1" else "0"
  | _, _ => valueText (some v)

def param? (b : Bag) (s : Setting) : Option (String × String) :=
  (b.get? s.attributeName).map fun v => (s.attributeName, sentText s v)

/-- The parameter of the tags whitelist, if the bag has one and the server offers it. -/
def tagsParam? (b : Bag) (f : Features) : Option (String × String) :=
  if f.tagsWhitelist then
    (b.get? tagsAttribute).map fun v => (tagsAttribute, valueText (some v))
  else none

/-- The form parameters of an update. -/
def params (b : Bag) (f : Features) : List (String × String) :=
  f.settings.filterMap b.param? ++ (b.tagsParam? f).toList

end Bag

end AccelForm
