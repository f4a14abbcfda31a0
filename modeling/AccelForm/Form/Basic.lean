import AccelForm.Form.Error
import AccelForm.Form.Row
/-
  The form

  The form holds the rows, which of them is selected, and what it offers for
  completion: the names of indexes and of tags. An edit names a data model and
  changes the first row of that name; a refused edit changes nothing.
-/

namespace AccelForm

structure Form where
  rows : List Row
  selected : Option Nat
  indexNames : List String
  tagNames : List String
  features : Features
  release : Option Release
  displayLimit : Nat

/-- Names without repetitions, each at the place of its first occurrence. -/
def uniqueNames : List String → List String
  | [] => []
  | name :: rest => name :: (uniqueNames rest).filter (· ≠ name)

structure Assets where
  macros : List Rest.SearchMacro
  indexes : List Rest.Index
  models : List Rest.DataModel
  tags : List Rest.Tag

namespace Form

/-- The form of a release and its assets: the first row is selected. -/
def ofAssets (release : Option Release) (displayLimit : Nat) (assets : Assets) : Form :=
  let rows := Row.pair assets.macros assets.models
  { rows
    selected := if rows.isEmpty then none else some 0
    indexNames := uniqueNames (assets.indexes.map (·.name))
    tagNames := uniqueNames (assets.tags.map (·.name))
    features := release.elim Features.newest Features.ofRelease
    release
    displayLimit }

/-- The place of the first row of a data model. -/
def position? (f : Form) (model : String) : Option Nat := f.rows.findIdx? (·.model == model)

def row? (f : Form) (model : String) : Option Row := f.rows.find? (·.model == model)

/-- The first row of a data model, which must exist. -/
def row (f : Form) (model : String) : Except FormError Row :=
  match f.row? model with
  | some r => .ok r
  | none => .error (.unknownModel model)

/-- The data models in the order of the rows. -/
def models (f : Form) : List String := f.rows.map (·.model)

/-- The data model of the selected row. -/
def selectedModel? (f : Form) : Option String := f.selected.bind fun i => (f.rows[i]?).map (·.model)

/-- Whether anything has been edited. -/
def isDirty (f : Form) : Bool := f.rows.any Row.isDirty

/-- Changes the first row of a data model in a list. -/
def updateFirst (model : String) (change : Row → Row) : List Row → List Row
  | [] => []
  | r :: rest =>
    if r.model = model then change r :: rest else r :: updateFirst model change rest

def update (f : Form) (model : String) (change : Row → Row) : Form :=
  { f with rows := updateFirst model change f.rows }

def select (f : Form) (model : String) : Except FormError Form :=
  match f.position? model with
  | some i => .ok { f with selected := some i }
  | none => .error (.unknownModel model)

/-- Sets the whitelist of a row to a list with commas. -/
def setWhitelist (f : Form) (model display : String) : Except FormError Form := do
  let r ← f.row model
  if r.macroName.isNone then .error (.noWhitelist model)
  else return f.update model fun r => { r with whitelist := Whitelist.tidy display }

def setSetting (f : Form) (model : String) (s : Setting) (value : Json) :
    Except FormError Form := do
  if !f.features.allows s then .error (.settingUnavailable s)
  else
    let _ ← f.row model
    return f.update model fun r =>
      { r with attributes := r.attributes.insert s.attributeName value }

/-- Sets the tags whitelist of a row to a list with commas. -/
def setTags (f : Form) (model tags : String) : Except FormError Form := do
  if !f.features.tagsWhitelist then .error .tagsUnavailable
  else
    let _ ← f.row model
    return f.update model fun r =>
      { r with attributes := r.attributes.insert tagsAttribute (.string (Whitelist.tidy tags)) }

def problems (f : Form) (model : String) : Except FormError (List Problem) :=
  (f.row model).map Row.problems

/-- Drops every edit. -/
def discard (f : Form) : Form := { f with rows := f.rows.map Row.discard }

end Form

end AccelForm
