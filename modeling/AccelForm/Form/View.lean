import AccelForm.Form.Basic
/-
  Views of rows

  What the form shows of a row: the whitelist in full and in short, every
  setting that the server offers with its text, whether it can be edited and
  what is wrong with it, and how the last save went.
-/

namespace AccelForm

structure SettingView where
  setting : Setting
  value : String
  isEnabled : Bool
  problem : Option Problem
  deriving DecidableEq, Repr

structure RowView where
  model : String
  label : String
  macroName : Option String
  whitelist : String
  restriction : Whitelist.Restriction
  isSelected : Bool
  isDirty : Bool
  controlsEnabled : Bool
  acceleration : Option Acceleration
  settings : List SettingView
  tagsWhitelist : Option String
  problems : List Problem
  status : Option Status
  deriving DecidableEq, Repr

namespace Row

def problemOf (problems : List Problem) (s : Setting) : Option Problem :=
  problems.find? (·.setting = s)

def settingView (r : Row) (s : Setting) : SettingView where
  setting := s
  value := r.attributes.settingText s
  isEnabled := s = .enabled || r.controlsEnabled
  problem := problemOf r.problems s

def view (features : Features) (displayLimit : Nat) (isSelected : Bool) (r : Row) : RowView where
  model := r.model
  label := Whitelist.label r.model
  macroName := r.macroName
  whitelist := r.whitelist
  restriction := Whitelist.restriction r.whitelist displayLimit
  isSelected := isSelected
  isDirty := r.isDirty
  controlsEnabled := r.controlsEnabled
  acceleration := (Acceleration.ofBag r.attributes).toOption
  settings := features.settings.map r.settingView
  tagsWhitelist :=
    if features.tagsWhitelist then some (valueText (r.attributes.get? tagsAttribute)) else none
  problems := r.problems
  status := r.status

end Row

namespace Form

def viewAt (f : Form) (place : Nat) (r : Row) : RowView :=
  r.view f.features f.displayLimit (f.selected == some place)

def views (f : Form) : List RowView := f.rows.mapIdx f.viewAt

def view (f : Form) (model : String) : Except FormError RowView :=
  match f.position? model, f.row? model with
  | some place, some r => .ok (f.viewAt place r)
  | _, _ => .error (.unknownModel model)

end Form

end AccelForm
