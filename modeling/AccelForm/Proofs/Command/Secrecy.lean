import AccelForm.Proofs.Command.Apply
import AccelForm.Proofs.Config.Secrets
import AccelForm.Proofs.Rest.Twins
/-
  Secrets do not show

  Two runs may have different secrets: a token, a password, or a key that is
  to be stored. Their configurations then differ in the secrets only
  (`results_config`), and their commands call the server alike and bring the
  same results (`twins_command`). So the two runs show the same text, tell the
  same failure and end with the same exit code (`run_conceals_secrets`).
-/

namespace AccelForm

open Rest

/-! ## The form and the stored keys -/

section Replying
variable {p : Secrets} {link : Link} {server' : Server}
  (hserver : p.SameReplies link.server server') (hp : p.own.Swapped p.other) (t : Config.Target)

include hserver hp

namespace Form

theorem twins_load (capability : String) (displayLimit : Nat) :
    p.Twins Eq (load (.remote link t) capability displayLimit)
      (load (.remote (link.on server') t) capability displayLimit) := by
  have hcall := fun op => Client.twins_perform hserver hp op
  refine ((hcall .caller).mapOk _).bindSame fun answer => ?_
  cases answer with
  | error fault => exact .pure rfl
  | ok allowed =>
    cases allowed with
    | false => exact .pure rfl
    | true =>
      refine ((hcall .serverInfo).mapOk _).bindSame fun version => ?_
      refine (hcall (.searchMacros t.owner t.app _)).bindSame fun macros => ?_
      refine (hcall .indexes).bindSame fun indexes => ?_
      refine (hcall (.dataModels t.owner t.app)).bindSame fun models => ?_
      refine (hcall .tags).bindSame fun tags => ?_
      split <;> exact .pure rfl

theorem twins_save (f : Form) :
    p.Twins Eq (f.save (.remote link t)) (f.save (.remote (link.on server') t)) := by
  have hcall := fun op => Client.twins_perform hserver hp op
  refine (Secrets.Twins.mapM fun c => ?_).bindSame fun whitelists => ?_
  · exact hcall (.updateMacro t.owner t.app c.macroName c.definition)
  refine (Secrets.Twins.mapM fun c => ?_).bindSame fun settings => .pure rfl
  exact hcall (.updateDataModel t.owner t.app c.model c.params)

end Form

namespace ApiKey

theorem twins_retrieve (realm name : String) :
    p.Twins Eq (retrieve (.remote link t) realm name)
      (retrieve (.remote (link.on server') t) realm name) := by
  refine Secrets.Twins.bindSame (Client.twins_perform hserver hp (.passwords t.app realm name))
    fun result => ?_
  cases result <;> exact .pure rfl

theorem twins_delete (realm name : String) :
    p.Twins Eq (delete (.remote link t) realm name)
      (delete (.remote (link.on server') t) realm name) := by
  refine Secrets.Twins.bindSame (Client.twins_perform hserver hp (.deletePassword t.app realm name))
    fun result => ?_
  cases result <;> exact .pure rfl

section Keys
variable {key key' : String} (realm name : String)
  (hcreate : p.Twins Eq (Client.createPassword link t.app realm name key).run
    (Client.createPassword (link.on server') t.app realm name key').run)

include hcreate

theorem twins_replace :
    p.Twins Eq (replace (.remote link t) realm name key)
      (replace (.remote (link.on server') t) realm name key') := by
  refine Secrets.Twins.bindSame (Client.twins_perform hserver hp (.deletePassword t.app realm name))
    fun _ => Secrets.Twins.bindSame hcreate fun result => ?_
  cases result <;> exact .pure rfl

theorem twins_save :
    p.Twins Eq (save (.remote link t) realm name key)
      (save (.remote (link.on server') t) realm name key') := by
  refine Secrets.Twins.bindSame hcreate fun result => ?_
  cases result with
  | ok _ => exact .pure rfl
  | error fault =>
    dsimp only
    split
    · exact twins_replace hserver hp t realm name hcreate
    · exact .pure rfl

end Keys

end ApiKey

end Replying

/-! ## Commands -/

namespace Command

/-- Whether two commands differ in the key to be stored only. -/
inductive Swapped : Command → Command → Prop
  | same (command : Command) : Swapped command command
  | save (name own other : String) : Swapped (.key (.save name own)) (.key (.save name other))

def key? : Command → Option String
  | .key (.save _ stored) => some stored
  | _ => none

def keys? (command command' : Command) : Option (String × String) :=
  match command.key?, command'.key? with
  | some own, some other => some (own, other)
  | _, _ => none

end Command

namespace Run

def Site.onWith (s : Site) (server : Server) (files : Files) : Site :=
  { s.on server with files := files }

variable {p : Secrets}

theorem twins_lift {ε α : Type} (failure : ε → Failure) {x x' : StateM Wire (Except ε α)}
    (hx : p.Twins Eq x x') : p.Twins Eq (lift failure x).run (lift failure x').run := by
  refine hx.lift.andThen fun result => ?_
  cases result with
  | ok a => exact .ok a
  | error e => exact .throw _

theorem twins_ofExcept {ε α : Type} (failure : ε → Failure) (result : Except ε α) :
    p.Twins Eq (ofExcept failure result).run (ofExcept failure result).run := by
  cases result with
  | ok a => exact .ok a
  | error e => exact .throw _

variable {s : Site} {server' : Server} {files' : Files}
  (hserver : p.SameReplies s.link.server server') (hp : p.own.Swapped p.other)

include hserver hp

theorem twins_openForm :
    p.Twins Eq (openForm s).run (openForm (s.onWith server' files')).run :=
  twins_lift .form (Form.twins_load hserver hp _ _ _)

theorem twins_check : p.Twins Eq (check s).run (check (s.onWith server' files')).run := by
  have hcaller := (Client.twins_perform hserver hp .caller).mapOk
    (·.hasCapability s.target.capability)
  refine (twins_lift .fault hcaller).andThen fun allowed => ?_
  cases allowed with
  | true => exact .ok _
  | false => exact .throw _

theorem twins_display (model : Option String) :
    p.Twins Eq (display s model).run (display (s.onWith server' files') model).run :=
  (twins_openForm hserver hp).andThen fun _ => (twins_ofExcept _ _).andThen fun _ => .ok _

theorem twins_apply {path : String} (hfiles : files' path = s.files path) (dryRun : Bool) :
    p.Twins Eq (apply s path dryRun).run (apply (s.onWith server' files') path dryRun).run := by
  have hedits : readEdits files' path = readEdits s.files path := by
    unfold readEdits
    rw [hfiles]
  have hread : p.Twins Eq (ofExcept id (readEdits s.files path)).run
      (ofExcept id (readEdits files' path)).run := by
    rw [hedits]
    exact twins_ofExcept _ _
  refine hread.andThen fun edits => (twins_openForm hserver hp).andThen fun f => ?_
  refine (twins_ofExcept .form (Edits.apply f edits).2).andThen fun invalid => ?_
  cases dryRun with
  | true => exact .ok _
  | false => exact (Form.twins_save hserver hp _ _).lift.andThen fun _ => .ok _

theorem twins_key {c c' : KeyCommand} (hkeys : p.keys = (Command.key c).keys? (.key c'))
    (hc : (Command.key c).Swapped (.key c')) :
    p.Twins Eq (key s c).run (key (s.onWith server' files') c').run := by
  have hsave : ∀ {name own other}, p.keys = some (own, other) →
      p.Twins Eq (key s (.save name own)).run
        (key (s.onWith server' files') (.save name other)).run :=
    fun hkeys => (twins_lift .key (ApiKey.twins_save hserver hp s.target _ _
      (Client.twins_createPassword hserver hp hkeys _ _ _))).andThen fun _ => .ok _
  cases hc with
  | save name own other => exact hsave hkeys
  | same =>
    cases c with
    | save name own => exact hsave hkeys
    | retrieve name =>
      exact (twins_lift .key (ApiKey.twins_retrieve hserver hp s.target _ name)).andThen
        fun _ => .ok _
    | delete name =>
      exact (twins_lift .key (ApiKey.twins_delete hserver hp s.target _ name)).andThen
        fun _ => .ok _

/-- A command brings the same whatever the secrets are. -/
theorem twins_command {command command' : Command} (hkeys : p.keys = command.keys? command')
    (hcommand : command.Swapped command')
    (hfiles : ∀ path dryRun, command = .apply path dryRun → files' path = s.files path) :
    p.Twins Eq (Run.command s command).run
      (Run.command (s.onWith server' files') command').run := by
  cases hcommand with
  | save name own other => exact twins_key hserver hp hkeys (.save name own other)
  | same =>
    cases command with
    | check => exact twins_check hserver hp
    | display model => exact twins_display hserver hp model
    | apply path dryRun => exact twins_apply hserver hp (hfiles path dryRun rfl) dryRun
    | key c => exact twins_key hserver hp hkeys (.same _)

end Run

/-! ## Runs -/

def Arguments.withoutSecrets (a : Arguments) : Arguments :=
  { a with password := none, apiToken := none, command := .check }

/-- Whether two arguments differ in the secrets only. -/
structure Arguments.Swapped (a a' : Arguments) : Prop where
  rest : a'.withoutSecrets = a.withoutSecrets
  password : Option.Rel Rest.Swapped a.password a'.password
  apiToken : Option.Rel Rest.Swapped a.apiToken a'.apiToken
  command : a.command.Swapped a'.command

/-- Whether the surroundings of two runs differ in the secrets only: those in the environment, and
those in the configuration file. -/
structure Arguments.SwappedAround (a : Arguments) (s s' : Config.Surroundings) : Prop where
  environment : s.environment.Swapped s'.environment
  accountHome : s'.accountHome = s.accountHome
  profiles : Config.FileSwapped (s.files (a.loader s).filePath) (s'.files (a.loader s).filePath)
  edits : ∀ path dryRun, a.command = .apply path dryRun → s'.files path = s.files path

/-- The secrets of two runs with a configuration each. -/
def Arguments.secrets (a a' : Arguments) (c c' : Config) : Rest.Secrets where
  own := c.credentials
  other := c'.credentials
  keys := a.command.keys? a'.command

namespace Arguments
variable {a a' : Arguments} {s s' : Config.Surroundings}

/-- What depends neither on the command nor on the secrets is the same. -/
theorem Swapped.congr {α : Type} (h : a.Swapped a') (f : Arguments → α)
    (hf : ∀ a, f a.withoutSecrets = f a) : f a' = f a := by
  rw [← hf a', ← hf a, h.rest]

theorem Swapped.layer (h : a.Swapped a') : a.layer.Swapped a'.layer where
  rest := congrArg Arguments.layer h.rest
  password := h.password
  apiToken := h.apiToken

theorem SwappedAround.loader (hs : a.SwappedAround s s') :
    (a.loader s).Swapped (a'.loader s') where
  environment := hs.environment
  layer := ⟨rfl, .none, .none⟩
  missingProfile := rfl

theorem Swapped.filePath_eq (h : a.Swapped a') (hs : a.SwappedAround s s') :
    (a'.loader s').filePath = (a.loader s).filePath := by
  have hpath : a'.givenPath = a.givenPath := h.congr Arguments.givenPath fun _ => rfl
  have hxdg := hs.environment.rest "XDG_CONFIG_HOME" (by decide)
  have hhome := hs.environment.rest "HOME" (by decide)
  have hdirectory : Config.configDirectory s' = Config.configDirectory s := by
    unfold Config.configDirectory
    rw [hxdg, hhome, hs.accountHome]
  show a'.givenPath.getD (joinPath (Config.configDirectory s') Config.filePlace) = _
  rw [hpath, hdirectory]
  rfl

/-- Two runs have configurations that differ in the secrets only, or the same problem. -/
theorem results_config (h : a.Swapped a') (hs : a.SwappedAround s s') :
    Results Config.Swapped (a.config s) (a'.config s') := by
  have hprofile := Config.Loader.results_loadProfile hs.loader
    (h.congr Arguments.profile fun _ => rfl) (h.filePath_eq hs) hs.profiles
  refine (hprofile.mapError _).bind fun l l' hl => ?_
  refine ((Config.Loader.results_loadEnvironment hl).mapError _).bind fun m m' hm => ?_
  exact (Config.Loader.results_build (hm.lay h.layer)).mapError _

end Arguments

namespace Outcome

/-- Whether two runs ended alike for whoever made them. -/
structure LooksLike (o o' : Outcome) : Prop where
  text : o'.text = o.text
  message : o'.failure.map Failure.message = o.failure.map Failure.message
  exitCode : o'.exitCode = o.exitCode

theorem LooksLike.refl (o : Outcome) : o.LooksLike o := ⟨rfl, rfl, rfl⟩

/-- What was sent does not show. -/
theorem looksLike_ofFinding (result : Except Failure Finding) (w w' : Wire) :
    (ofFinding result w).LooksLike (ofFinding result w') := by
  cases result <;> exact ⟨rfl, rfl, rfl⟩

end Outcome

namespace Arguments
variable {a a' : Arguments} {s s' : Config.Surroundings} {server server' : Server}

/-- Configurations that differ in the secrets only make for runs that look alike. -/
theorem looksLike_run {c c' : Config} (hargs : a.Swapped a') (hs : a.SwappedAround s s')
    (hc : c.Swapped c') (hserver : (a.secrets a' c c').SameReplies server server') :
    (c.run a s.files server).LooksLike (c'.run a' s'.files server') := by
  have houtput : a'.output = a.output := hargs.congr Arguments.output fun _ => rfl
  cases hformat : Format.ofWord? a.output with
  | none =>
    rw [Config.run_of_unknownFormat hformat,
      Config.run_of_unknownFormat (by rw [houtput, hformat]), houtput]
    exact .refl _
  | some format =>
    have hsite : c'.site format s'.files server' =
        (c.site format s.files server).onWith server' s'.files := by
      unfold Config.site
      rw [hc.connection, hc.target]
      rfl
    have htwins := Run.twins_command (s := c.site format s.files server) hserver hc.credentials rfl
      hargs.command hs.edits
    rcases hrun : (Run.command (c.site format s.files server) a.command).run.run
      (.start c.credentials) with ⟨result, w⟩
    rcases hrun' : (Run.command (c'.site format s'.files server') a'.command).run.run
      (.start c'.credentials) with ⟨result', w'⟩
    have hfirst := (htwins _ _ (Secrets.Wires.start _)).1
    rw [← hsite] at hfirst
    have hresult : result = result' :=
      (congrArg Prod.fst hrun).symm.trans (hfirst.trans (congrArg Prod.fst hrun'))
    rw [Config.run_eq hformat c s.files server hrun,
      Config.run_eq (by rw [houtput, hformat]) c' s'.files server' hrun', hresult]
    exact Outcome.looksLike_ofFinding ..

/-- Two runs that differ in the secrets only, against servers that give the same replies, show the
same text, tell the same failure and end with the same exit code. -/
theorem run_conceals_secrets (hargs : a.Swapped a') (hs : a.SwappedAround s s')
    (hserver : ∀ c c', a.config s = .ok c → a'.config s' = .ok c' →
      (a.secrets a' c c').SameReplies server server') :
    (a.run s server).LooksLike (a'.run s' server') := by
  have hresults := results_config hargs hs
  revert hserver
  unfold run
  generalize a.config s = result, a'.config s' = result' at hresults ⊢
  intro hserver
  cases hresults with
  | error failure => exact .refl _
  | ok hc => exact looksLike_run hargs hs hc (hserver _ _ rfl rfl)

end Arguments

/-! ## Two small runs that store a key each -/

/-- A server that stores what the bearer of a token posts, and refuses everyone else. -/
def Rest.Server.guarded (token : String) : Server := fun _ r =>
  ⟨.response (if r.authorization = some ("Bearer " ++ token) then 201 else 401) none "", ⟨0⟩, none⟩

/-- Servers that are guarded by the tokens of two runs give them the same replies. -/
theorem Rest.Secrets.sameReplies_guarded {p : Secrets} {token token' : String}
    (hown : p.own = .token token) (hother : p.other = .token token') :
    p.SameReplies (.guarded token) (.guarded token') := by
  intro past past' r r' _ hr
  cases hr with
  | login hlogin => cases hown.symm.trans hlogin
  | call hshown =>
    cases hshown with
    | key hlogin => cases hown.symm.trans hlogin
    | token h h' =>
      cases hown.symm.trans h
      cases hother.symm.trans h'
      simp [Server.guarded]

namespace Arguments

def storing (token stored : String) : Arguments :=
  { small (.key (.save "n" stored)) with apiToken := some token }

/-- A key is stored with the one token as it is stored with the other. -/
theorem looksLike_storing :
    (storing "t" "k").Swapped (storing "u" "l") ∧
    ((storing "t" "k").run .small (.guarded "t")).exitCode = .success ∧
    ((storing "t" "k").run .small (.guarded "t")).LooksLike
      ((storing "u" "l").run .small (.guarded "u")) := by
  have hswapped : (storing "t" "k").Swapped (storing "u" "l") := by
    refine ⟨rfl, .none, .some (.inr ⟨?_, ?_⟩), .save "n" "k" "l"⟩ <;> exact ⟨by decide, by decide⟩
  have haround : (storing "t" "k").SwappedAround .small .small :=
    ⟨⟨fun _ _ => rfl, fun _ _ => .none⟩, rfl, .same _, fun _ _ _ => rfl⟩
  have hown : (storing "t" "k").config .small = .ok Config.small := by decide +kernel
  have hother : (storing "u" "l").config .small =
      .ok { Config.small with credentials := .token "u" } := by decide +kernel
  refine ⟨hswapped, by decide +kernel, run_conceals_secrets hswapped haround fun c c' hc hc' => ?_⟩
  cases hown.symm.trans hc
  cases hother.symm.trans hc'
  exact Secrets.sameReplies_guarded rfl rfl

end Arguments

end AccelForm
