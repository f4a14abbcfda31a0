import AccelForm.Command.Edits
import AccelForm.Command.Setup
import AccelForm.Form.Remote
/-
  Runs

  A run puts its configuration together, calls the server and shows a result.
  The format of the result and the edit file are looked at before the server
  is called. A run that leaves changes unsaved shows its result and fails all
  the same.
-/

namespace AccelForm

open Rest (Link Wire)

/-- What a command brings: the text of its result, and how many of its changes were not saved. -/
structure Finding where
  text : String
  unsaved : Nat := 0
  total : Nat := 0
  deriving DecidableEq, Repr

/-- A step of a run, which may fail and leaves its traces on the wire in any case. -/
abbrev Run := ExceptT Failure (StateM Wire)

namespace Run

structure Site where
  link : Link
  target : Config.Target
  format : Format
  files : Files

namespace Site

def backend (s : Site) : Backend (StateM Wire) := .remote s.link s.target

def store (s : Site) : PasswordStore (StateM Wire) := .remote s.link s.target

end Site

def lift (failure : ε → Failure) (step : StateM Wire (Except ε α)) : Run α := do
  match ← (step : StateM Wire _) with
  | .ok a => return a
  | .error e => throw (failure e)

/-- A pure step whose failures are made failures of the run. -/
def ofExcept (failure : ε → Failure) (result : Except ε α) : Run α :=
  match result with
  | .ok a => pure a
  | .error e => throw (failure e)

def openForm (s : Site) : Run Form :=
  lift .form (Form.load s.backend s.target.capability s.target.displayLimit)

def check (s : Site) : Run Finding := do
  if ← lift .fault (s.backend.hasCapability s.target.capability) then
    return { text := s.format.check ⟨s.target.capability, true⟩ }
  else throw (.form (.permissionDenied s.target.capability))

/-- The rows that are asked for: one by its data model, or all. -/
def viewsOf (f : Form) : Option String → Except FormError (List RowView)
  | none => .ok f.views
  | some model => do
    let selected ← f.select model
    return [← selected.view model]

def formResult (f : Form) (rows : List RowView) (isDetailed : Bool) : FormResult where
  version := f.release.map Release.text
  features := f.features
  rows := rows
  indexes := f.indexNames
  tags := f.tagNames
  isDetailed := isDetailed

def display (s : Site) (model : Option String) : Run Finding := do
  let f ← openForm s
  let rows ← ofExcept .form (viewsOf f model)
  return { text := s.format.form (formResult f rows model.isSome) }

def readEdits (files : Files) (path : String) : Except Failure Edits :=
  match (files path).read with
  | .error reason => .error (.unreadableEdits path reason)
  | .ok contents =>
    match Edits.read.run contents with
    | none => .error (.malformedEdits path)
    | some edits => .ok edits

def planned (format : Format) (invalid : List InvalidChange) (p : Plan) : Finding where
  text := format.apply ⟨true, invalid, some p, none⟩
  unsaved := p.invalid.length
  total := p.size

/-- What a save brings. -/
def saved (format : Format) (invalid : List InvalidChange) (r : SaveReport) : Finding where
  text := format.apply ⟨false, invalid, none, some r⟩
  unsaved := r.failedCount
  total := r.items.length

/-- Makes the edits of a file and saves them, or says what a save would do. -/
def apply (s : Site) (path : String) (dryRun : Bool) : Run Finding := do
  let edits ← ofExcept id (readEdits s.files path)
  let f ← openForm s
  let (edited, result) := Edits.apply f edits
  let invalid ← ofExcept .form result
  if dryRun then return planned s.format invalid edited.plan
  else
    let (report, _) ← (edited.save s.backend : StateM Wire _)
    return saved s.format invalid report

def keyFinding (s : Site) (operation name : String) (outcome : KeyOutcome) (key : Option String) :
    Finding :=
  { text := s.format.key ⟨operation, name, s.target.realm, outcome.message, key⟩ }

def key (s : Site) : KeyCommand → Run Finding
  | .save name key => do
    let outcome ← lift .key (ApiKey.save s.store s.target.realm name key)
    return keyFinding s "save" name outcome none
  | .retrieve name => do
    let key ← lift .key (ApiKey.retrieve s.store s.target.realm name)
    return keyFinding s "show" name .retrieved (some key)
  | .delete name => do
    let outcome ← lift .key (ApiKey.delete s.store s.target.realm name)
    return keyFinding s "delete" name outcome none

def command (s : Site) : Command → Run Finding
  | .check => check s
  | .display model => display s model
  | .apply path dryRun => apply s path dryRun
  | .key c => key s c

end Run

/-- How a run ended: the text that it showed, why it failed, and the requests it sent. -/
structure Outcome where
  text : Option String
  failure : Option Failure
  requests : List Rest.Request

namespace Outcome

/-- The end of a run that failed before it called the server. -/
def early (failure : Failure) : Outcome := ⟨none, some failure, []⟩

/-- The end of a run with what its command brought. -/
def ofFinding (result : Except Failure Finding) (wire : Wire) : Outcome :=
  match result with
  | .error failure => ⟨none, some failure, wire.sent⟩
  | .ok found =>
    ⟨some found.text,
      if found.unsaved = 0 then none else some (.unsaved found.unsaved found.total), wire.sent⟩

def exitCode (o : Outcome) : ExitCode := o.failure.elim .success Failure.exitCode

end Outcome

def Arguments.paths (a : Arguments) (s : Config.Surroundings) : List String :=
  match a.command with
  | .apply path _ => [(a.loader s).filePath, path]
  | _ => [(a.loader s).filePath]

def Config.run (c : Config) (a : Arguments) (files : Files) (server : Rest.Server) : Outcome :=
  match Format.ofWord? a.output with
  | none => .early (.unknownFormat a.output)
  | some format =>
    let site : Run.Site := ⟨c.connection.link server, c.target, format, files⟩
    let (result, wire) := (Run.command site a.command).run.run (.start c.credentials)
    .ofFinding result wire

def Arguments.run (a : Arguments) (s : Config.Surroundings) (server : Rest.Server) : Outcome :=
  match a.config s with
  | .error failure => .early failure
  | .ok c => c.run a s.files server

end AccelForm
