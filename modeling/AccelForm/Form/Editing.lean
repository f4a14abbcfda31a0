import AccelForm.Form.Basic
/-
  Editing in place

  A step acts on the form that is open. It may be refused on the way, and what
  it has changed up to there then stays changed. A step finds the first row of
  a data model with its place, and puts the edited row back at that place. To
  set a setting answers with the problems of the edited row.
-/

namespace AccelForm

/-- A step on the open form. -/
abbrev Editing := EStateM FormError Form

namespace Editing

/-- The first row of a data model and its place; the row must exist. -/
def find (model : String) : Editing (Nat × Row) := do
  let f ← get
  match f.position? model, f.row? model with
  | some place, some r => return (place, r)
  | _, _ => throw (.unknownModel model)

def put (place : Nat) (r : Row) : Editing Unit :=
  modify fun f => { f with rows := f.rows.set place r }

def select (model : String) : Editing Unit := do
  let (place, _) ← find model
  modify fun f => { f with selected := some place }

/-- Sets the whitelist of a row to a list with commas. -/
def setWhitelist (model display : String) : Editing Unit := do
  let (place, r) ← find model
  if r.macroName.isNone then throw (.noWhitelist model)
  else put place { r with whitelist := Whitelist.tidy display }

/-- Sets an attribute of a row, if the server offers it, and answers with the edited row. -/
def setAttribute (offered : Features → Bool) (refusal : FormError) (model key : String)
    (value : Json) : Editing Row := do
  if !offered (← get).features then throw refusal
  else
    let (place, r) ← find model
    let edited := { r with attributes := r.attributes.insert key value }
    put place edited
    return edited

/-- Sets a setting of a row and answers with the problems that the row then has. -/
def setSetting (model : String) (s : Setting) (value : Json) : Editing (List Problem) := do
  let edited ← setAttribute (·.allows s) (.settingUnavailable s) model s.attributeName value
  return edited.problems

/-- Sets the tags whitelist of a row to a list with commas. -/
def setTags (model tags : String) : Editing Unit := do
  let _ ← setAttribute (·.tagsWhitelist) .tagsUnavailable model tagsAttribute
    (.string (Whitelist.tidy tags))

end Editing

end AccelForm
