import AccelForm.Proofs.Command.Apply
/-
  Runs that modify the server

  Only three commands can send a request that modifies: to store a key, to
  delete one, and to apply an edit file in earnest. The last one does so only
  after the form was opened and every edit of the file was made. One edit that
  the form refuses, wherever it stands in the file, and nothing is modified.
-/

namespace AccelForm

open Rest Client

namespace Run
variable (s : Site)

/-! ## Commands that only read -/

theorem sends_check : Sends Request.IsRead (check s).run := by
  have hcaller := alike_single (.refl _ s.link.server) "/services/authentication/current-context"
    "current-context" Read.caller
  refine (alike_lift .fault hcaller.map).andThen fun allowed => ?_
  split
  · exact .ok _
  · exact .throw _

theorem sends_display (model : Option String) : Sends Request.IsRead (display s model).run :=
  (alike_openForm (.refl _ _)).andThen fun _ => (sends_ofExcept _ _).andThen fun _ => .ok _

theorem sends_retrieve (name : String) : Sends Request.IsRead (key s (.retrieve name)).run := by
  have hlookup := alike_passwords (.refl _ s.link.server) s.target.app s.target.realm name
  refine (alike_lift .key (hlookup.bind fun answer => ?_)).andThen fun _ => .ok _
  cases answer with
  | ok entries => exact .pure _
  | error fault => exact .pure _

theorem sends_openEdited (path : String) : Sends Request.IsRead (openEdited s path).run :=
  alike_openEdited (.refl _ _) path

end Run

namespace Config
variable {a : Arguments} {files : Files} {server : Server}

/-- A command that only reads is a run that modifies nothing. -/
theorem not_modifies_run (c : Config)
    (h : ∀ format, Sends Request.IsRead
      (Run.command (c.site format files server) a.command).run) :
    ∀ r ∈ (c.run a files server).requests, ¬ r.Modifies := by
  cases hformat : Format.ofWord? a.output with
  | none =>
    rw [run_of_unknownFormat hformat]
    simp [Outcome.early]
  | some format =>
    rcases hrun : (Run.command (c.site format files server) a.command).run.run
      (.start c.credentials) with ⟨result, w⟩
    have hreads := (h format).sent_of_sent (w := .start c.credentials) (by simp [Wire.start])
    rw [hrun] at hreads
    rw [run_eq hformat c files server hrun, Outcome.requests_ofFinding]
    exact fun r hr => Request.isRead_iff.1 (hreads r hr)

end Config

namespace Arguments

/-- Whether a run may modify anything: it stores or deletes a key, or it applies an edit file, has
opened the form and made every edit, and up to there it has modified nothing. -/
def MayModify (a : Arguments) (s : Config.Surroundings) (server : Server) : Prop :=
  (∃ name key, a.command = .key (.save name key)) ∨ (∃ name, a.command = .key (.delete name)) ∨
  ∃ c path edits f w edited invalid later, a.Opened s server c path false edits f w ∧
    Edits.apply f edits = (edited, .ok invalid) ∧
    (a.run s server).requests = w.sent ++ later ∧ ∀ r ∈ w.sent, ¬ r.Modifies

section Runs
variable {a : Arguments} {s : Config.Surroundings} {server : Server} {c : Config} {path : String}
  {dryRun : Bool}

/-- What has been read before the edits are saved, or are not. -/
theorem not_modifies_openEdited (format : Format) (c : Config) (files : Files) (path : String)
    {result : Except Failure (Form × List InvalidChange)} {w : Wire}
    (h : (Run.openEdited (c.site format files server) path).run.run (.start c.credentials) =
      (result, w)) : ∀ r ∈ w.sent, ¬ r.Modifies := by
  have hreads := (Run.sends_openEdited (c.site format files server) path).sent_of_sent
    (w := .start c.credentials) (by simp [Wire.start])
  rw [h] at hreads
  exact fun r hr => Request.isRead_iff.1 (hreads r hr)

/-- To apply an edit file modifies nothing, or the form was opened and every edit was made. -/
theorem mayModify_of_apply (hcommand : a.command = .apply path dryRun)
    (hconfig : a.config s = .ok c) :
    (∀ r ∈ (a.run s server).requests, ¬ r.Modifies) ∨ a.MayModify s server := by
  cases hformat : Format.ofWord? a.output with
  | none =>
    rw [run_of_config hconfig, Config.run_of_unknownFormat hformat]
    exact .inl (by simp [Outcome.early])
  | some format =>
    rcases hopen : (Run.openEdited (c.site format s.files server) path).run.run
      (.start c.credentials) with ⟨result, w⟩
    have hreads := not_modifies_openEdited format c s.files path hopen
    have hends : ∀ {result : Except Failure Finding} {w' : Wire},
        (Run.apply (c.site format s.files server) path dryRun).run.run (.start c.credentials) =
          (result, w') → (a.run s server).requests = w'.sent := by
      intro result w' happly
      rw [run_of_config hconfig, Config.run_of_apply hformat hcommand c happly,
        Outcome.requests_ofFinding]
    cases result with
    | error failure =>
      rw [hends (Run.apply_run_of_error hopen)]
      exact .inl hreads
    | ok made =>
      obtain ⟨edited, invalid⟩ := made
      cases dryRun with
      | true =>
        rw [hends (Run.apply_run_dry hopen)]
        exact .inl hreads
      | false =>
        -- only now the save begins, and it adds to what was read
        obtain ⟨edits, f, hopened, hmade⟩ := exists_opened hcommand hconfig hformat hopen
        obtain ⟨results, hdelivers, _⟩ := edited.delivers_save (c.connection.link server) c.target w
        obtain ⟨later, hlater⟩ := hdelivers.exists_append
        exact .inr (.inr (.inr ⟨c, path, edits, f, w, edited, invalid, later, hopened, hmade,
          (hends (Run.apply_run_real hopen)).trans hlater, hreads⟩))

/-- One data model whose edits are refused, and nothing is modified. -/
theorem run_of_refused {edits : Edits} {f : Form} {w : Wire}
    (h : a.Opened s server c path dryRun edits f w)
    (hrefused : ∃ p ∈ edits, Edits.Refused f p.1 p.2) :
    (∀ r ∈ (a.run s server).requests, ¬ r.Modifies) ∧
      (a.run s server).exitCode = .validation := by
  obtain ⟨format, hformat⟩ := Option.isSome_iff_exists.1 h.format
  rcases Edits.apply_cases f edits with ⟨_, _, _, hnone⟩ | ⟨g, refusal, hmade, _, hcode⟩
  · obtain ⟨p, hp, hrefuses⟩ := hrefused
    exact absurd hrefuses (hnone p hp)
  · have hopen := h.openEdited_run format
    rw [hmade] at hopen
    have hreads := not_modifies_openEdited format c s.files path hopen
    have happly : (Run.apply (c.site format s.files server) path dryRun).run.run
        (.start c.credentials) = (.error (.form refusal), w) := Run.apply_run_of_error hopen
    rw [run_of_config h.config, Config.run_of_apply hformat h.command c happly]
    exact ⟨hreads, hcode⟩

end Runs

/-- A run modifies something only if it stores or deletes a key, or applies an edit file whose
edits were all made in the form that it opened. One data model whose edits are refused, and the run
modifies nothing and ends with the exit code for it. -/
theorem modifies_run (a : Arguments) (s : Config.Surroundings) (server : Server) :
    (∀ r ∈ (a.run s server).requests, r.Modifies → a.MayModify s server) ∧
    ∀ c path dryRun edits f w, a.Opened s server c path dryRun edits f w →
      (∃ p ∈ edits, Edits.Refused f p.1 p.2) →
      (∀ r ∈ (a.run s server).requests, ¬ r.Modifies) ∧ (a.run s server).exitCode.number = 5 := by
  refine ⟨fun r hr hmodifies => ?_, fun c path dryRun edits f w hopened hrefused => ?_⟩
  · cases hconfig : a.config s with
    | error failure =>
      rw [run_of_config_error hconfig] at hr
      simp [Outcome.early] at hr
    | ok c =>
      have hreading : (∀ format, Sends Request.IsRead
          (Run.command (c.site format s.files server) a.command).run) → a.MayModify s server := by
        intro hreads
        rw [run_of_config hconfig] at hr
        exact absurd hmodifies (c.not_modifies_run hreads r hr)
      cases hcommand : a.command with
      | check =>
        exact hreading fun format => by rw [hcommand]; exact Run.sends_check _
      | display model =>
        exact hreading fun format => by rw [hcommand]; exact Run.sends_display _ model
      | apply path dryRun =>
        exact (mayModify_of_apply hcommand hconfig).resolve_left fun h => h r hr hmodifies
      | key k =>
        cases k with
        | save name key => exact .inl ⟨name, key, hcommand⟩
        | retrieve name =>
          exact hreading fun format => by rw [hcommand]; exact Run.sends_retrieve _ name
        | delete name => exact .inr (.inl ⟨name, hcommand⟩)
  · obtain ⟨hreads, hcode⟩ := run_of_refused hopened hrefused
    rw [hcode]
    exact ⟨hreads, rfl⟩

/-- One run that modifies the server, and one that does not because of its second edit. -/
theorem modifies_run_small :
    (∃ r ∈ ((small (.apply "edits.json" false)).run .small .small).requests, r.Modifies) ∧
    (small (.apply "edits.json" false)).MayModify .small .small ∧
    (∃ edits f w, (small (.apply "odd.json" false)).Opened .small .small .small "odd.json" false
      edits f w ∧ ∃ p ∈ edits, Edits.Refused f p.1 p.2) ∧
    (∀ r ∈ ((small (.apply "odd.json" false)).run .small .small).requests, ¬ r.Modifies) ∧
    ((small (.apply "odd.json" false)).run .small .small).exitCode.number = 5 := by
  have hposts : ∃ r ∈ ((small (.apply "edits.json" false)).run .small .small).requests,
      r.Modifies := by
    have hany : (((small (.apply "edits.json" false)).run .small .small).requests.any fun r =>
        r.method == .post && r.authorization.isSome) = true := by decide +kernel
    obtain ⟨r, hr, hpost⟩ := List.any_eq_true.1 hany
    rw [Bool.and_eq_true, beq_iff_eq] at hpost
    refine ⟨r, hr, .inr ⟨hpost.1, fun hlogin => ?_⟩⟩
    rw [hlogin.authorization] at hpost
    cases hpost.2
  have hopened : ∃ edits f w, (small (.apply "odd.json" false)).Opened .small .small .small
      "odd.json" false edits f w ∧ ∃ p ∈ edits, Edits.Refused f p.1 p.2 := by
    let es : ModelEdits :=
      ⟨none, none, [("max_time", .number (.int 60)), ("speed", .number (.int 1))]⟩
    have hconfig : (small (.apply "odd.json" false)).config .small = .ok .small := by
      decide +kernel
    have hedits : Run.readEdits Config.Surroundings.small.files "odd.json" = .ok [("Web", es)] := by
      decide +kernel
    have hspeed : Setting.ofName? "speed" = none := by decide +kernel
    obtain ⟨f, w, hopens⟩ := Form.exists_opens_of_isSome
      (.remote (Config.small.connection.link .small) .standard)
      Config.Target.standard.capability Config.Target.standard.displayLimit (.start (.token "t"))
      (by decide +kernel)
    exact ⟨_, f, w, ⟨rfl, hconfig, rfl, hedits, hopens⟩, ("Web", es), List.mem_singleton_self _,
      .unknownSetting (List.mem_cons_of_mem _ (List.mem_singleton_self _)) hspeed⟩
  obtain ⟨r, hr, hmodifies⟩ := hposts
  obtain ⟨edits, f, w, hopen, hrefused⟩ := hopened
  exact ⟨⟨r, hr, hmodifies⟩, (modifies_run _ _ _).1 r hr hmodifies,
    ⟨edits, f, w, hopen, hrefused⟩, (modifies_run _ _ _).2 _ _ _ _ _ _ hopen hrefused⟩

end Arguments

end AccelForm
