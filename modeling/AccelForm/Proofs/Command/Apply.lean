import AccelForm.Command.Run
import AccelForm.Proofs.Command.Edits
import AccelForm.Proofs.Form.Delivery
import AccelForm.Proofs.Form.Opening
/-
  Applying an edit file

  A run that applies an edit file opens the form and makes the edits
  (`openEdited`), and only then saves or says what a save would do. Up to
  there it only reads, so a dry run and a real run come to the same edited
  form wherever what they read is answered alike.
-/

namespace AccelForm

open Rest

namespace Run

/-- The edited form and the problems that were noted: what a save and a dry run start from. -/
def openEdited (s : Site) (path : String) : Run (Form × List InvalidChange) := do
  let edits ← ofExcept id (readEdits s.files path)
  let f ← openForm s
  let (edited, result) := Edits.apply f edits
  let invalid ← ofExcept .form result
  return (edited, invalid)

theorem lift_run {ε α : Type} (failure : ε → Failure) {x : StateM Wire (Except ε α)}
    {w w' : Wire} {result : Except ε α} (h : x.run w = (result, w')) :
    (lift failure x).run.run w = (result.mapError failure, w') := by
  have hlift : (ExceptT.lift x : ExceptT Failure (StateM Wire) _).run.run w = (.ok result, w') := by
    show ((Except.ok <$> x : StateM Wire _).run w) = _
    rw [StateT.run_map, h]
    rfl
  show (ExceptT.lift x >>= _ : ExceptT Failure (StateM Wire) α).run.run w = _
  rw [ExceptT.run_bind, StateT.run_bind, hlift]
  cases result <;> rfl

section Opening
variable {s : Site} {path : String} {w w' : Wire} {edits : Edits}

theorem openEdited_of_unread {failure : Failure} (h : readEdits s.files path = .error failure)
    (w : Wire) : (openEdited s path).run.run w = (.error failure, w) := by
  unfold openEdited
  rw [h]
  rfl

theorem openEdited_of_unopened {e : FormError} (hedits : readEdits s.files path = .ok edits)
    (hload : (Form.load s.backend s.target.capability s.target.displayLimit).run w =
      (.error e, w')) : (openEdited s path).run.run w = (.error (.form e), w') := by
  have hopen : (openForm s).run.run w = _ := lift_run .form hload
  unfold openEdited
  rw [hedits]
  show (openForm s >>= _ : Run _).run.run w = _
  rw [ExceptT.run_bind, StateT.run_bind, hopen]
  rfl

theorem openEdited_of_opened {f : Form} (hedits : readEdits s.files path = .ok edits)
    (hload : (Form.load s.backend s.target.capability s.target.displayLimit).run w =
      (.ok f, w')) : (openEdited s path).run.run w =
      (((Edits.apply f edits).2.map ((Edits.apply f edits).1, ·)).mapError .form, w') := by
  have hopen : (openForm s).run.run w = _ := lift_run .form hload
  unfold openEdited
  rw [hedits]
  show (openForm s >>= _ : Run _).run.run w = _
  rw [ExceptT.run_bind, StateT.run_bind, hopen]
  show ((ofExcept .form (Edits.apply f edits).2 >>= _ : Run _)).run.run w' = _
  cases (Edits.apply f edits).2 <;> rfl

/-- There is an edited form exactly if the file was read, the form opened and every edit made. -/
theorem of_openEdited_eq_ok {edited : Form} {invalid : List InvalidChange}
    (h : (openEdited s path).run.run w = (.ok (edited, invalid), w')) :
    ∃ edits f, readEdits s.files path = .ok edits ∧
      (Form.load s.backend s.target.capability s.target.displayLimit).run w = (.ok f, w') ∧
      Edits.apply f edits = (edited, .ok invalid) := by
  cases hedits : readEdits s.files path with
  | error failure =>
    rw [openEdited_of_unread hedits] at h
    cases h
  | ok edits =>
    rcases hload : (Form.load s.backend s.target.capability s.target.displayLimit).run w with
      ⟨result, w₁⟩
    cases result with
    | error e =>
      rw [openEdited_of_unopened hedits hload] at h
      cases h
    | ok f =>
      rw [openEdited_of_opened hedits hload] at h
      rcases happly : Edits.apply f edits with ⟨g, outcome⟩
      rw [happly] at h
      cases outcome with
      | error refusal => cases h
      | ok noted =>
        cases h
        exact ⟨edits, f, rfl, rfl, happly⟩

end Opening

theorem apply_eq (s : Site) (path : String) (dryRun : Bool) :
    apply s path dryRun = do
      let (edited, invalid) ← openEdited s path
      if dryRun then return planned s.format invalid edited.plan
      else
        let (report, _) ← (edited.save s.backend : StateM Wire _)
        return saved s.format invalid report := by
  simp [apply, openEdited]

def Site.on (s : Site) (server : Server) : Site := { s with link := s.link.on server }

section Reading
variable {s : Site} {server' : Server} (h : s.link.server.Agrees Request.IsRead server')

theorem sends_ofExcept {ε α : Type} {P : Request → Prop} (failure : ε → Failure)
    (result : Except ε α) : Sends P (ofExcept failure result).run := by
  cases result with
  | ok a => exact .ok a
  | error e => exact .throw _

theorem alike_lift {ε α : Type} {P : Request → Prop} (failure : ε → Failure)
    {x x' : StateM Wire (Except ε α)} (hx : Alike P x x') :
    Alike P (lift failure x).run (lift failure x').run := by
  refine hx.lift.andThen fun result => ?_
  cases result with
  | ok a => exact .ok a
  | error e => exact .throw _

include h

theorem alike_openForm : Alike Request.IsRead (openForm s).run (openForm (s.on server')).run :=
  alike_lift .form (Form.alike_load h _ _ _)

theorem alike_openEdited (path : String) :
    Alike Request.IsRead (openEdited s path).run (openEdited (s.on server') path).run :=
  (sends_ofExcept _ _).andThen fun _ => (alike_openForm h).andThen fun _ =>
    (sends_ofExcept _ _).andThen fun _ => .ok _

end Reading

/-! ## From the edited form on -/

section Ending
variable {s : Site} {path : String} {w w' : Wire}

theorem apply_run_of_error {dryRun : Bool} {failure : Failure}
    (h : (openEdited s path).run.run w = (.error failure, w')) :
    (apply s path dryRun).run.run w = (.error failure, w') := by
  rw [apply_eq, ExceptT.run_bind, StateT.run_bind, h]
  rfl

theorem apply_run_dry {edited : Form} {invalid : List InvalidChange}
    (h : (openEdited s path).run.run w = (.ok (edited, invalid), w')) :
    (apply s path true).run.run w = (.ok (planned s.format invalid edited.plan), w') := by
  rw [apply_eq, ExceptT.run_bind, StateT.run_bind, h]
  rfl

theorem apply_run_real {edited : Form} {invalid : List InvalidChange}
    (h : (openEdited s path).run.run w = (.ok (edited, invalid), w')) :
    (apply s path false).run.run w =
      (.ok (saved s.format invalid ((edited.save s.backend).run w').1.1),
        ((edited.save s.backend).run w').2) := by
  rw [apply_eq, ExceptT.run_bind, StateT.run_bind, h]
  rfl

end Ending

end Run

/-! ## Runs -/

namespace Config
variable {a : Arguments} {format : Format}

/-- What a command of a run with a configuration works with. -/
def site (c : Config) (format : Format) (files : Files) (server : Server) : Run.Site :=
  ⟨c.connection.link server, c.target, format, files⟩

theorem run_of_unknownFormat (h : Format.ofWord? a.output = none) (c : Config) (files : Files)
    (server : Server) : c.run a files server = .early (.unknownFormat a.output) := by
  unfold run
  rw [h]

theorem run_eq (h : Format.ofWord? a.output = some format) (c : Config) (files : Files)
    (server : Server) {result : Except Failure Finding} {w : Wire}
    (hrun : (Run.command (c.site format files server) a.command).run.run (.start c.credentials) =
      (result, w)) : c.run a files server = .ofFinding result w := by
  unfold run
  rw [h]
  show Outcome.ofFinding ((Run.command (c.site format files server) a.command).run.run _).1
    ((Run.command (c.site format files server) a.command).run.run _).2 = _
  rw [hrun]

theorem run_of_apply {path : String} {dryRun : Bool} {files : Files} {server : Server}
    (hformat : Format.ofWord? a.output = some format) (hcommand : a.command = .apply path dryRun)
    (c : Config) {result : Except Failure Finding} {w : Wire}
    (happly : (Run.apply (c.site format files server) path dryRun).run.run (.start c.credentials) =
      (result, w)) : c.run a files server = .ofFinding result w := by
  refine run_eq hformat c files server ?_
  rw [hcommand]
  exact happly

end Config

theorem Outcome.requests_ofFinding (result : Except Failure Finding) (w : Wire) :
    (ofFinding result w).requests = w.sent := by
  cases result <;> rfl

namespace Arguments
variable {a : Arguments} {s : Config.Surroundings} {server : Server} {c : Config} {path : String}
  {dryRun : Bool} {format : Format} {w : Wire}

theorem run_of_config (h : a.config s = .ok c) (server : Server) :
    a.run s server = c.run a s.files server := by
  unfold run
  rw [h]

theorem run_of_config_error {failure : Failure} (h : a.config s = .error failure)
    (server : Server) : a.run s server = .early failure := by
  unfold run
  rw [h]

/-- Whether a run applies an edit file, or says what that would do, and has opened the form. -/
structure Opened (a : Arguments) (s : Config.Surroundings) (server : Server) (c : Config)
    (path : String) (dryRun : Bool) (edits : Edits) (f : Form) (w : Wire) : Prop where
  command : a.command = .apply path dryRun
  config : a.config s = .ok c
  format : (Format.ofWord? a.output).isSome = true
  edits : Run.readEdits s.files path = .ok edits
  opens : Form.Opens (.remote (c.connection.link server) c.target) c.target.capability
    c.target.displayLimit (.start c.credentials) f w

/-- There is an edited form only if the form was opened and every edit made. -/
theorem exists_opened (hcommand : a.command = .apply path dryRun) (hconfig : a.config s = .ok c)
    (hformat : Format.ofWord? a.output = some format) {edited : Form}
    {invalid : List InvalidChange}
    (h : (Run.openEdited (c.site format s.files server) path).run.run (.start c.credentials) =
      (.ok (edited, invalid), w)) :
    ∃ edits f, a.Opened s server c path dryRun edits f w ∧
      Edits.apply f edits = (edited, .ok invalid) := by
  obtain ⟨edits, f, hedits, hload, hmade⟩ := Run.of_openEdited_eq_ok h
  have hopened : a.Opened s server c path dryRun edits f w :=
    ⟨hcommand, hconfig, by rw [hformat]; rfl, hedits, Form.opens_of_load hload⟩
  exact ⟨edits, f, hopened, hmade⟩

/-- Once the form is opened, all depends on the edits. -/
theorem Opened.openEdited_run {edits : Edits} {f : Form}
    (h : a.Opened s server c path dryRun edits f w) (format : Format) :
    (Run.openEdited (c.site format s.files server) path).run.run (.start c.credentials) =
      (((Edits.apply f edits).2.map ((Edits.apply f edits).1, ·)).mapError .form, w) := by
  let site := c.site format s.files server
  have hload : (Form.load site.backend site.target.capability site.target.displayLimit).run
      (.start c.credentials) = (.ok f, w) := Form.load_of_opens h.opens
  exact Run.openEdited_of_opened (s := site) h.edits hload

end Arguments

/-! ## A small run -/

namespace Rest.Server

/-- What a server with one data model sends when the form is opened: the caller, and the lists. -/
def smallBody : Nat → String
  | 0 => "\x7b\"entry\":[\x7b\"name\":\"u\",\"content\":\x7b\"capabilities\":[" ++
      "\"accelerate_datamodel\"]\x7d\x7d]\x7d"
  | 4 => "\x7b\"entry\":[\x7b\"name\":\"Web\",\"content\":\x7b\"acceleration\":\"1\"\x7d\x7d]\x7d"
  | _ => "\x7b\x7d"

/-- A server with one data model that grants what it is sent. -/
def small : Server := fun past _ => ⟨.response 200 none (smallBody past.length), ⟨0⟩, none⟩

end Rest.Server

/-- Arguments that name the server and a token, and nothing else. -/
def Arguments.small (command : Command) : Arguments where
  baseUrl := some "http://h"
  username := none
  password := none
  apiToken := some "t"
  timeout := none
  maxRetries := some 0
  skipVerify := false
  profile := none
  configPath := none
  app := none
  realm := none
  output := "json"
  outputFile := none
  logJson := false
  command := command

namespace Config

/-- A desk with an edit file, and with one whose second edit names no setting. -/
def Surroundings.small : Surroundings where
  environment := .empty
  accountHome := "/"
  files
    | "edits.json" => .file "\x7b\"Web\":\x7b\"max_time\":60\x7d\x7d"
    | "odd.json" => .file "\x7b\"Web\":\x7b\"max_time\":60,\"speed\":1\x7d\x7d"
    | _ => .absent

/-- The configuration of a small run. -/
def small : Config where
  connection := ⟨"http://h", false, .ofSeconds defaultTimeout, 0, defaultMargin, defaultLifetime⟩
  credentials := .token "t"
  target := .standard

end Config

end AccelForm
