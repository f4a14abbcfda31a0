import AccelForm.Acceleration.Change
import AccelForm.Acceleration.Problem
import AccelForm.Rest.Resource
import AccelForm.Whitelist
/-
  Rows of the form

  The form has a row for every data model. A row holds the whitelist and the
  attributes as they were loaded or last saved, and as they are edited. A row
  that was paired with a whitelist macro can have its whitelist edited. The
  rows with a macro come first, in the order of the macros; a macro that finds
  no data model of its name left is passed over.
-/

namespace AccelForm

inductive Status where
  | saved
  | saveFailed (message : String)
  | invalid (problems : List Problem)
  deriving DecidableEq, Repr

structure Row where
  model : String
  macroName : Option String
  savedWhitelist : String
  whitelist : String
  baseline : Bag
  attributes : Bag
  status : Option Status
  deriving DecidableEq

namespace Bag

/-- The bag as it is loaded: the switch for manual rebuilds is there and, where it can be read,
spelled as a number. -/
def loaded (b : Bag) : Bag :=
  match b.setting? .manualRebuilds with
  | none | some .null => b.insert Setting.manualRebuilds.attributeName (flagValue false)
  | some _ => b.respell .manualRebuilds

/-- The bag with one attribute as another bag has it. -/
def revert (b : Bag) (baseline : Bag) (key : String) : Bag :=
  match baseline.get? key with
  | some value => b.insert key value
  | none => b.erase key

end Bag

namespace Row

def ofModel (macroName : Option String) (whitelist : String) (dm : Rest.DataModel) : Row where
  model := dm.name
  macroName := macroName
  savedWhitelist := whitelist
  whitelist := whitelist
  baseline := dm.content.loaded
  attributes := dm.content.loaded
  status := none

def whitelistChanged (r : Row) : Bool := r.macroName.isSome && r.whitelist ≠ r.savedWhitelist

def settingsChanged (r : Row) : Bool := r.baseline.differs r.attributes

/-- Whether anything has been edited. -/
def isDirty (r : Row) : Bool := r.whitelistChanged || r.settingsChanged

/-- Whether the settings other than the one that turns acceleration on can be edited. -/
def controlsEnabled (r : Row) : Bool := r.attributes.enabled?.getD false

def problems (r : Row) : List Problem := r.attributes.problems

/-- The row without its edits. -/
def discard (r : Row) : Row := { r with whitelist := r.savedWhitelist, attributes := r.baseline }

/-- The row with the settings that have problems put back. -/
def revert (r : Row) (problems : List Problem) : Row :=
  { r with attributes :=
      problems.foldl (fun b p => b.revert r.baseline p.setting.attributeName) r.attributes }

/-- The row after its whitelist was saved. -/
def keepWhitelist (r : Row) : Row := { r with savedWhitelist := r.whitelist }

/-- The row after its settings were saved. -/
def keepSettings (r : Row) : Row := { r with baseline := r.attributes }

/-- Takes the first data model of a name out of a list. -/
def takeModel? (name : String) : List Rest.DataModel → Option (Rest.DataModel × List Rest.DataModel)
  | [] => none
  | dm :: rest =>
    if dm.name = name then some (dm, rest)
    else (takeModel? name rest).map fun (found, others) => (found, dm :: others)

/-- The data model that a macro is for, and the other ones. -/
def takeModelOf? (m : Rest.SearchMacro) (models : List Rest.DataModel) :
    Option (Rest.DataModel × List Rest.DataModel) :=
  (Whitelist.modelName? m.name).bind (takeModel? · models)

def pair : List Rest.SearchMacro → List Rest.DataModel → List Row
  | [], models => models.map (ofModel none "")
  | m :: macros, models =>
    match takeModelOf? m models with
    | some (dm, others) =>
      ofModel (some m.name) (Whitelist.decode m.definition) dm :: pair macros others
    | none => pair macros models

end Row

end AccelForm
