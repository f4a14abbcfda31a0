import AccelForm.Form.Basic
/-
  Plans

  A plan says what a save would do: which whitelists it would send, which
  settings of which data models, and which data models it would not send
  because their settings have problems. Each part lists the rows in order.
-/

namespace AccelForm

structure WhitelistChange where
  model : String
  macroName : String
  definition : String
  deriving DecidableEq, Repr

structure SettingsChange where
  model : String
  changedKeys : List String
  params : List (String × String)
  deriving DecidableEq, Repr

structure InvalidChange where
  model : String
  problems : List Problem
  deriving DecidableEq, Repr

/-- What a save would do. -/
structure Plan where
  whitelists : List WhitelistChange
  settings : List SettingsChange
  invalid : List InvalidChange
  deriving DecidableEq, Repr

namespace Row

/-- The whitelist of a row as it is to be sent, if it has been edited. -/
def whitelistChange? (r : Row) : Option WhitelistChange :=
  match r.macroName with
  | some name =>
    if r.whitelistChanged then
      some ⟨r.model, name, Whitelist.encode (Whitelist.split r.whitelist)⟩
    else none
  | none => none

/-- The settings of a row as they are to be sent, if they have been edited and have no
problems. -/
def settingsChange? (features : Features) (r : Row) : Option SettingsChange :=
  if r.settingsChanged && r.problems.isEmpty then
    some ⟨r.model, r.baseline.changedKeys r.attributes, r.attributes.params features⟩
  else none

/-- The problems of a row, if its settings have been edited and have problems. -/
def invalidChange? (r : Row) : Option InvalidChange :=
  if r.settingsChanged && !r.problems.isEmpty then some ⟨r.model, r.problems⟩ else none

end Row

namespace Form

/-- What a save would do. -/
def plan (f : Form) : Plan where
  whitelists := f.rows.filterMap Row.whitelistChange?
  settings := f.rows.filterMap (Row.settingsChange? f.features)
  invalid := f.rows.filterMap Row.invalidChange?

end Form

namespace Plan

/-- Whether there is nothing to do. -/
def isEmpty (p : Plan) : Bool := p.whitelists.isEmpty && p.settings.isEmpty && p.invalid.isEmpty

def size (p : Plan) : Nat := p.invalid.length + p.whitelists.length + p.settings.length

end Plan

end AccelForm
