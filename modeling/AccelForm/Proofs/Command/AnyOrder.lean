import AccelForm.Proofs.Command.DryRun
import AccelForm.Proofs.Command.Shuffle
/-
  Runs with the keys of the edit file in another order

  Two runs apply edit files that differ only in the order of their keys, none
  of which occurs twice. Both open the same form, for up to there the edits do
  not matter. Then both files are refused, with one exit code although perhaps
  not for the same edit, or both edited forms differ in the order of attributes
  (`openEdited_shuffled`), and a save of such forms sends and reports the same.
  So the runs cannot be told apart by what they send, by their exit codes or by
  their reports (`run_shuffled`).
-/

namespace AccelForm

open Rest Config

/-- Whether there are edit files in two places at one path that differ only in the order of their
keys, no key and no setting of a data model occurring twice. -/
def Files.Shuffled (files files' : Files) (path : String) : Prop :=
  ∃ text text' d d', files path = .file text ∧ files' path = .file text' ∧
    Json.Document.read? text = some d ∧ Json.Document.read? text' = some d' ∧
    Edits.Distinct d ∧ Edits.Shuffled d d'

theorem Files.Shuffled.symm {files files' : Files} {path : String}
    (h : files.Shuffled files' path) : files'.Shuffled files path := by
  obtain ⟨text, text', d, d', hfile, hfile', hread, hread', hdistinct, hshuffled⟩ := h
  exact ⟨text', text, d', d, hfile', hfile, hread', hread, hdistinct.of_shuffled hshuffled,
    hshuffled.symm⟩

namespace Run
variable {s : Site} {files' : Files} {path : String}

theorem readEdits_of_file {files : Files} {text : String} {d : Json.Document}
    (hfile : files path = .file text) (hread : Json.Document.read? text = some d) :
    readEdits files path =
      (Edits.read Json.fullRoom d).elim (.error (.malformedEdits path)) .ok := by
  have hrun : Edits.read.run text = Edits.read Json.fullRoom d := by
    rw [Json.Reader.run, hread, Option.bind_some]
  unfold readEdits
  rw [hfile]
  dsimp only [FileNode.read]
  rw [hrun]
  cases Edits.read Json.fullRoom d <;> rfl

theorem readEdits_shuffled {files : Files} (h : files.Shuffled files' path) :
    (∃ failure, readEdits files path = .error failure ∧ readEdits files' path = .error failure) ∨
    ∃ edits edits', readEdits files path = .ok edits ∧ readEdits files' path = .ok edits' ∧
      edits.Reordered edits' := by
  obtain ⟨text, text', d, d', hfile, hfile', hread, hread', hdistinct, hshuffled⟩ := h
  rw [readEdits_of_file hfile hread, readEdits_of_file hfile' hread']
  rcases Edits.read_shuffled hshuffled hdistinct with ⟨hnone, hnone'⟩ |
    ⟨edits, edits', hedits, hedits', hreordered⟩
  · rw [hnone, hnone']
    exact .inl ⟨_, rfl, rfl⟩
  · rw [hedits, hedits']
    exact .inr ⟨edits, edits', rfl, rfl, hreordered⟩

def Site.withFiles (s : Site) (files : Files) : Site := { s with files }

/-- Up to the edited form the two runs send the same. Both fail with one exit code, or come to forms
that differ in the order of edited attributes. -/
theorem openEdited_shuffled (h : s.files.Shuffled files' path) (w : Wire) :
    (∃ failure failure' w', (openEdited s path).run.run w = (.error failure, w') ∧
      (openEdited (s.withFiles files') path).run.run w = (.error failure', w') ∧
      failure'.exitCode = failure.exitCode) ∨
    ∃ edited edited' invalid w', (openEdited s path).run.run w = (.ok (edited, invalid), w') ∧
      (openEdited (s.withFiles files') path).run.run w = (.ok (edited', invalid), w') ∧
      edited.Reordered edited' := by
  rcases readEdits_shuffled h with ⟨failure, herror, herror'⟩ |
    ⟨edits, edits', hedits, hedits', hreordered⟩
  · exact .inl ⟨failure, failure, w, openEdited_of_unread herror w,
      openEdited_of_unread (s := s.withFiles files') herror' w, rfl⟩
  · -- the form is opened before any edit is looked at, so both runs open the same one
    rcases hload : (Form.load s.backend s.target.capability s.target.displayLimit).run w with
      ⟨result, w'⟩
    cases result with
    | error e =>
      exact .inl ⟨_, _, w', openEdited_of_unopened hedits hload,
        openEdited_of_unopened (s := s.withFiles files') hedits' hload, rfl⟩
    | ok f =>
      rw [openEdited_of_opened hedits hload,
        openEdited_of_opened (s := s.withFiles files') hedits' hload]
      rcases Edits.apply_reordered hreordered f with
        ⟨g, g', invalid, happly, happly', hforms⟩ | ⟨g, g', refusal, refusal', happly, happly', hcode⟩
      · rw [happly, happly']
        exact .inr ⟨g, g', invalid, w', rfl, rfl, hforms⟩
      · rw [happly, happly']
        exact .inl ⟨_, _, w', rfl, rfl, hcode⟩

end Run

/-- Whether two runs ended alike: with the same requests and the same exit code. -/
structure Outcome.Alike (o o' : Outcome) : Prop where
  requests : o'.requests = o.requests
  exitCode : o'.exitCode = o.exitCode

theorem Outcome.Alike.refl (o : Outcome) : o.Alike o := ⟨rfl, rfl⟩

namespace Config
variable {a : Arguments} {files files' : Files} {path : String} {dryRun : Bool}

/-- With one configuration, the runs send the same and end with the same exit code, and a save shows
the same. -/
theorem alike_run (hcommand : a.command = .apply path dryRun)
    (h : files.Shuffled files' path) (c : Config) (server : Server) :
    (c.run a files server).Alike (c.run a files' server) ∧
      (dryRun = false → (c.run a files' server).text = (c.run a files server).text) := by
  cases hformat : Format.ofWord? a.output with
  | none =>
    rw [run_of_unknownFormat hformat, run_of_unknownFormat hformat]
    exact ⟨.refl _, fun _ => rfl⟩
  | some format =>
    let site := c.site format files server
    rcases Run.openEdited_shuffled (s := site) h (.start c.credentials) with
      ⟨failure, failure', w, herror, herror', hcode⟩ | ⟨edited, edited', invalid, w, hok, hok', hforms⟩
    · rw [run_of_apply hformat hcommand c (Run.apply_run_of_error herror),
        run_of_apply hformat hcommand c (Run.apply_run_of_error herror')]
      exact ⟨⟨rfl, hcode⟩, fun _ => rfl⟩
    · cases dryRun with
      | true =>
        rw [run_of_apply hformat hcommand c (Run.apply_run_dry hok),
          run_of_apply hformat hcommand c (Run.apply_run_dry hok')]
        -- what is shown may list changed names in another order, but what is counted is the same
        refine ⟨⟨rfl, ?_⟩, nofun⟩
        rw [Outcome.exitCode_ofFinding, Outcome.exitCode_ofFinding, Run.planned, Run.planned,
          hforms.plan.invalid]
      | false =>
        obtain ⟨hreport, hwire⟩ := hforms.save_run_eq site.backend w
        have hrun' : c.run a files' server =
            .ofFinding (.ok (Run.saved format invalid ((edited.save site.backend).run w).1.1))
              ((edited.save site.backend).run w).2 := by
          rw [hreport, hwire]
          exact run_of_apply hformat hcommand c (Run.apply_run_real hok')
        rw [run_of_apply hformat hcommand c (Run.apply_run_real hok), hrun']
        exact ⟨.refl _, fun _ => rfl⟩

end Config

namespace Arguments
variable {a : Arguments} {s s' : Surroundings} {server : Server} {path : String} {dryRun : Bool}

/-- Whether a run opened the form, made every edit, and its save had this report. -/
def Reports (a : Arguments) (s : Surroundings) (server : Server) (report : SaveReport) : Prop :=
  ∃ c path edits f w edited invalid g w', a.Opened s server c path false edits f w ∧
    Edits.apply f edits = (edited, .ok invalid) ∧
    (edited.save (.remote (c.connection.link server) c.target)).run w = ((report, g), w')

theorem Reports.of_shuffled (hcommand : a.command = .apply path dryRun)
    (hconfig : a.config s' = a.config s) (h : s.files.Shuffled s'.files path) {report : SaveReport}
    (hreports : a.Reports s server report) : a.Reports s' server report := by
  obtain ⟨c, path', edits, f, w, edited, invalid, g, w', hopened, happly, hsave⟩ := hreports
  obtain ⟨rfl, rfl⟩ := Command.apply.inj (hcommand.symm.trans hopened.command)
  rcases Run.readEdits_shuffled h with ⟨failure, herror, _⟩ | ⟨_, edits', hedits, hedits', hreordered⟩
  · cases herror.symm.trans hopened.edits
  · obtain rfl := Except.ok.inj (hedits.symm.trans hopened.edits)
    obtain ⟨edited', happly', hforms⟩ := Edits.apply_eq_ok_reordered hreordered (.refl f) happly
    rcases hsave' : (edited'.save (.remote (c.connection.link server) c.target)).run w with
      ⟨⟨report', g'⟩, w₁⟩
    obtain ⟨hreport, _⟩ := hforms.save_run_eq (.remote (c.connection.link server) c.target) w
    rw [hsave, hsave'] at hreport
    obtain rfl : report = report' := hreport
    exact ⟨c, path, edits', f, w, edited', invalid, g', w₁,
      ⟨hcommand, hconfig.trans hopened.config, hopened.format, hedits', hopened.opens⟩, happly',
      hsave'⟩

/-- The order of the keys of an edit file does not matter. If two files differ only in the order of
the data models and of the keys of each of them, and no key and no setting occurs twice, then runs
that apply them send the same requests in the same order, have the same exit code and, if they
save, the same report. -/
theorem run_shuffled (hcommand : a.command = .apply path dryRun)
    (hconfig : a.config s' = a.config s) (h : s.files.Shuffled s'.files path) (server : Server) :
    (a.run s' server).requests = (a.run s server).requests ∧
    (a.run s' server).exitCode = (a.run s server).exitCode ∧
    (dryRun = false → (a.run s' server).text = (a.run s server).text) ∧
    ∀ report, a.Reports s' server report ↔ a.Reports s server report := by
  have halike : (a.run s server).Alike (a.run s' server) ∧
      (dryRun = false → (a.run s' server).text = (a.run s server).text) := by
    cases hc : a.config s with
    | error failure =>
      rw [run_of_config_error hc, run_of_config_error (hconfig.trans hc)]
      exact ⟨.refl _, fun _ => rfl⟩
    | ok c =>
      rw [run_of_config hc, run_of_config (hconfig.trans hc)]
      exact c.alike_run hcommand h server
  exact ⟨halike.1.requests, halike.1.exitCode, halike.2, fun report =>
    ⟨.of_shuffled hcommand hconfig.symm h.symm, .of_shuffled hcommand hconfig h⟩⟩

/-- A desk with an edit file. -/
def deskWith (text : String) : Surroundings :=
  { Surroundings.small with
    files := fun path => if path = "edits.json" then .file text else .absent }

/-- An edit file for two data models. -/
def orderedEdits : String :=
  "\x7b\"Web\":\x7b\"max_time\":60,\"max_concurrent\":2\x7d,\"Mail\":\x7b\x7d\x7d"

def shuffledEdits : String :=
  "\x7b\"Mail\":\x7b\x7d,\"Web\":\x7b\"max_concurrent\":2,\"max_time\":60\x7d\x7d"

theorem shuffled_edits : (deskWith orderedEdits).files.Shuffled (deskWith shuffledEdits).files
    "edits.json" := by
  let time : Option String × Json.Document := (some "max_time", .number (some (.int 60)))
  let count : Option String × Json.Document := (some "max_concurrent", .number (some (.int 2)))
  let web (ms : List (Option String × Json.Document)) : Option String × Json.Document :=
    (some "Web", .object ms)
  let mail : Option String × Json.Document := (some "Mail", .object [])
  have hdiffer : Edits.Differ "max_time" "max_concurrent" := by
    have htime : Setting.ofName? "max_time" = some .maxTime := by decide
    have hcount : Setting.ofName? "max_concurrent" = some .maxConcurrent := by decide
    refine ⟨by decide, fun s hs hs' => ?_⟩
    cases htime.symm.trans hs
    cases hcount.symm.trans hs'
  have hdistinct : Edits.Distinct (.object [web [time, count], mail]) :=
    ⟨by decide, List.forall_mem_cons.2 ⟨List.pairwise_pair.2 hdiffer,
      List.forall_mem_singleton.2 .nil⟩⟩
  refine ⟨orderedEdits, shuffledEdits, .object [web [time, count], mail],
    .object [mail, web [count, time]], rfl, rfl, rfl, rfl, hdistinct,
    .file (.swap mail (web [time, count]) []) (.cons ⟨rfl, .refl _⟩ (.cons ⟨rfl, ?_⟩ .nil))⟩
  exact .object (.swap count time [])

/-- A run sends an update, and the same one in whatever order the keys of its edits stand. -/
theorem run_shuffled_edits :
    ((small (.apply "edits.json" false)).run (deskWith shuffledEdits) .small).requests =
      ((small (.apply "edits.json" false)).run (deskWith orderedEdits) .small).requests ∧
    ((small (.apply "edits.json" false)).run (deskWith shuffledEdits) .small).exitCode =
      ((small (.apply "edits.json" false)).run (deskWith orderedEdits) .small).exitCode ∧
    (((small (.apply "edits.json" false)).run (deskWith orderedEdits) .small).requests.any
      (·.method == .post)) = true := by
  have hconfig : (small (.apply "edits.json" false)).config (deskWith shuffledEdits) =
      (small (.apply "edits.json" false)).config (deskWith orderedEdits) := by decide +kernel
  obtain ⟨hrequests, hcode, _⟩ := run_shuffled (a := small (.apply "edits.json" false)) rfl hconfig
    shuffled_edits .small
  exact ⟨hrequests, hcode, by decide +kernel⟩

end Arguments

end AccelForm
