import AccelForm.Form.Plan
/-
  Saves

  A save sends what the plan says and settles the form by the outcomes. Where
  an update succeeded, what was sent becomes the new baseline; where it
  failed, the edits stay. Settings with problems are not sent: they are put
  back to the baseline, and the other edits of the row stay. The report lists
  the data models with problems first, then the whitelists, then the settings.
  The status of a row is the worst outcome among the items of its data model.
-/

namespace AccelForm

/-- What an item of a report is about. -/
inductive SaveKind where
  | whitelist
  | settings
  deriving DecidableEq, Repr

inductive SaveOutcome where
  | saved
  | failed (message : String)
  | invalid (problems : List Problem)
  deriving DecidableEq, Repr

structure SaveItem where
  model : String
  kind : SaveKind
  outcome : SaveOutcome
  deriving DecidableEq, Repr

structure SaveReport where
  items : List SaveItem
  deriving DecidableEq, Repr

namespace SaveReport

/-- Whether nothing needed to be saved. -/
def isEmpty (r : SaveReport) : Bool := r.items.isEmpty

def isSuccess (r : SaveReport) : Bool := r.items.all (·.outcome = .saved)

def savedCount (r : SaveReport) : Nat := r.items.countP (·.outcome = .saved)

def failedCount (r : SaveReport) : Nat := r.items.countP (·.outcome ≠ .saved)

end SaveReport

abbrev UpdateResult := Except Rest.Fault Unit

/-- How an item ended for which an update was sent. -/
def SaveOutcome.ofResult : UpdateResult → SaveOutcome
  | .ok _ => .saved
  | .error fault => .failed fault.message

/-- The worse one of a status and an outcome; the first failure counts before later ones, and
the first problems before later ones. -/
def Status.worsen : Option Status → SaveOutcome → Option Status
  | some (.saveFailed message), _ => some (.saveFailed message)
  | _, .failed message => some (.saveFailed message)
  | some (.invalid problems), _ => some (.invalid problems)
  | _, .invalid problems => some (.invalid problems)
  | _, .saved => some .saved

namespace SaveReport

def status? (r : SaveReport) (model : String) : Option Status :=
  (r.items.filter (·.model = model)).foldl (fun s item => Status.worsen s item.outcome) none

/-- The report on a plan, given what the server said to its updates. -/
def ofResults (p : Plan) (whitelists settings : List UpdateResult) : SaveReport where
  items :=
    p.invalid.map (fun c => ⟨c.model, .settings, .invalid c.problems⟩) ++
      (p.whitelists.zip whitelists).map (fun (c, r) => ⟨c.model, .whitelist, .ofResult r⟩) ++
      (p.settings.zip settings).map (fun (c, r) => ⟨c.model, .settings, .ofResult r⟩)

end SaveReport

namespace Form

/-- The form with the settings that have problems put back. -/
def revertInvalid (f : Form) (changes : List InvalidChange) : Form :=
  changes.foldl (fun f c => f.update c.model (·.revert c.problems)) f

/-- The form with the whitelists that were saved as the new baseline. -/
def keepWhitelists (f : Form) (results : List (WhitelistChange × UpdateResult)) : Form :=
  results.foldl (fun f (c, r) => if r.isOk then f.update c.model Row.keepWhitelist else f) f

/-- The form with the settings that were saved as the new baseline. -/
def keepSettings (f : Form) (results : List (SettingsChange × UpdateResult)) : Form :=
  results.foldl (fun f (c, r) => if r.isOk then f.update c.model Row.keepSettings else f) f

def showStatuses (f : Form) (report : SaveReport) : Form :=
  { f with rows := f.rows.map fun r => { r with status := report.status? r.model } }

/-- Settles the form by what the server said to the updates of its plan. -/
def settle (f : Form) (whitelists settings : List UpdateResult) : SaveReport × Form :=
  let p := f.plan
  let report := SaveReport.ofResults p whitelists settings
  let reverted := f.revertInvalid p.invalid
  let kept := (reverted.keepWhitelists (p.whitelists.zip whitelists)).keepSettings
    (p.settings.zip settings)
  (report, kept.showStatuses report)

end Form

end AccelForm
