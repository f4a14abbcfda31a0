import AccelForm.Command.Setup
import AccelForm.Proofs.Config.Build
import Mathlib.Control.Monad.Basic
/-
  Which source settles a setting

  The command line, the environment and the selected profile are asked for each
  setting in this order (`Origin.asked`), and the first of them that gives one
  settles it. This is said of every setting by itself, without layers: a source
  that leaves a setting out hides nothing below it, and one that gives it hides
  nothing but this setting. What is put together of layers is exactly that
  (`handed_eq`), so the sources of a configuration are known setting by setting
  (`config_settled`), and so is when a profile that is missing matters.
-/

namespace AccelForm.Config

/-! ## Sources -/

/-- The sources of the settings of a run. -/
structure Sources where
  arguments : Arguments
  environment : Environment
  profile : Option Profile

/-- How each source gives a setting. -/
structure Origin (α : Type) where
  argument : Arguments → Option α
  inEnvironment : Environment → Option α
  inProfile : Profile → Option α

namespace Origin
variable {α : Type}

/-- What the sources say of a setting, the highest one first. -/
def asked (o : Origin α) (s : Sources) : List (Option α) :=
  [o.argument s.arguments, o.inEnvironment s.environment, s.profile.bind o.inProfile]

/-- The setting as the highest source gives it that gives it at all. -/
def value? (o : Origin α) (s : Sources) : Option α := (o.asked s).findSome? id

/-- What the environment gives under a name where only some texts can be read; a blank text counts
as none. -/
def variableAs (name : String) (read? : String → Option α) (e : Environment) : Option α :=
  (e.value? name).bind read?

def baseUrl : Origin String :=
  ⟨Arguments.baseUrl, (·.value? "SPLUNK_BASE_URL"), Profile.baseUrl⟩

def username : Origin String :=
  ⟨Arguments.username, (·.value? "SPLUNK_USERNAME"), Profile.username⟩

def password : Origin String :=
  ⟨Arguments.password, (·.value? "SPLUNK_PASSWORD"), Profile.password⟩

def apiToken : Origin String :=
  ⟨Arguments.apiToken, (·.value? "SPLUNK_API_TOKEN"), Profile.apiToken⟩

/-- The command line can only turn the check of certificates off. -/
def skipVerify : Origin Bool :=
  ⟨fun a => if a.skipVerify then some true else none,
    variableAs "SPLUNK_SKIP_VERIFY" Text.switch?, Profile.skipVerify⟩

/-- The seconds for which a request may take. -/
def timeout : Origin Nat :=
  ⟨Arguments.timeout, variableAs "SPLUNK_TIMEOUT" Text.word?, Profile.timeoutSeconds⟩

def maxRetries : Origin Nat :=
  ⟨Arguments.maxRetries, variableAs "SPLUNK_MAX_RETRIES" Text.word?, Profile.maxRetries⟩

def sessionLifetime : Origin Nat :=
  ⟨fun _ => none, variableAs "SPLUNK_SESSION_TTL" Text.word?, Profile.sessionLifetime⟩

def app : Origin String := ⟨Arguments.app, (·.value? "CIM_SETUP_APP"), Profile.app⟩

def owner : Origin String := ⟨fun _ => none, (·.value? "CIM_SETUP_OWNER"), Profile.owner⟩

def realm : Origin String := ⟨Arguments.realm, (·.value? "CIM_SETUP_REALM"), Profile.realm⟩

def displayLimit : Origin Nat :=
  ⟨fun _ => none, variableAs "CIM_SETUP_MAX_DISPLAY_COUNT" Text.word?, Profile.displayLimit⟩

/-- Of what is asked in order, the first answer counts. -/
theorem value?_eq (o : Origin α) (s : Sources) : o.value? s =
    (o.argument s.arguments).or ((o.inEnvironment s.environment).or
      (s.profile.bind o.inProfile)) := by
  unfold value? asked
  cases o.argument s.arguments with
  | some a => rfl
  | none =>
    cases o.inEnvironment s.environment with
    | some a => rfl
    | none => cases s.profile.bind o.inProfile <;> rfl

end Origin

/-- The credentials that the sources give: a token, wherever it comes from, or else a user name and
a password, each from where it is found first. -/
def Sources.credentials? (s : Sources) : Option Rest.Credentials :=
  match Origin.apiToken.value? s with
  | some token => some (.token token)
  | none =>
    match Origin.username.value? s, Origin.password.value? s with
    | some username, some password => some (.login username password)
    | _, _ => none

/-- Whether the sources say which server to call and with which credentials. -/
def Sources.IsComplete (s : Sources) : Prop :=
  (Origin.baseUrl.value? s).isSome = true ∧ s.credentials?.isSome = true

/-- Whether a configuration has every setting as the highest source gives it that gives it, and its
default where none does. The base address is brought into its normal spelling. -/
structure Sources.Settle (s : Sources) (c : Config) : Prop where
  baseUrl : ∃ raw, Origin.baseUrl.value? s = some raw ∧
    normalBaseUrl raw = .ok c.connection.baseUrl
  credentials : s.credentials? = some c.credentials
  skipVerify : c.connection.skipVerify = (Origin.skipVerify.value? s).getD false
  timeout : c.connection.timeout = .ofSeconds ((Origin.timeout.value? s).getD defaultTimeout)
  maxRetries : c.connection.maxRetries = (Origin.maxRetries.value? s).getD defaultRetries
  sessionLifetime :
    c.connection.sessionLifetime = (Origin.sessionLifetime.value? s).getD defaultLifetime
  app : c.target.app = (Origin.app.value? s).getD Target.standard.app
  owner : c.target.owner = (Origin.owner.value? s).getD Target.standard.owner
  realm : c.target.realm = (Origin.realm.value? s).getD Target.standard.realm
  displayLimit :
    c.target.displayLimit = (Origin.displayLimit.value? s).getD Target.standard.displayLimit

/-! ## Sources that can be read -/

/-- Whether a variable can be read where it is not blank. -/
def Environment.Reads {α : Type} (e : Environment) (name : String) (read? : String → Option α) :
    Prop :=
  ((e.value? name).all fun text => (read? text).isSome) = true

/-- Whether the numbers and the switch of an environment can be read. -/
structure Environment.WellFormed (e : Environment) : Prop where
  skipVerify : e.Reads "SPLUNK_SKIP_VERIFY" Text.switch?
  timeout : e.Reads "SPLUNK_TIMEOUT" Text.word?
  maxRetries : e.Reads "SPLUNK_MAX_RETRIES" Text.word?
  sessionLifetime : e.Reads "SPLUNK_SESSION_TTL" Text.word?
  displayLimit : e.Reads "CIM_SETUP_MAX_DISPLAY_COUNT" Text.word?

/-- The profiles at a path, of which there are none where there is no file. -/
def profilesAt (path : String) (node : FileNode) : Except ConfigError Profiles :=
  if node.isThere then Loader.readProfiles path node else .ok []

/-! ## Layers and their sources -/

/-- The settings that sources give, each settled by itself. -/
def Sources.layer (s : Sources) : Layer where
  baseUrl := Origin.baseUrl.value? s
  username := Origin.username.value? s
  password := Origin.password.value? s
  apiToken := Origin.apiToken.value? s
  skipVerify := Origin.skipVerify.value? s
  timeout := (Origin.timeout.value? s).map .ofSeconds
  maxRetries := Origin.maxRetries.value? s
  sessionLifetime := Origin.sessionLifetime.value? s
  app := Origin.app.value? s
  owner := Origin.owner.value? s
  realm := Origin.realm.value? s
  displayLimit := Origin.displayLimit.value? s

namespace Layer

theorem above_empty (l : Layer) : l.above empty = l := by
  simp [above, empty]

theorem parsed?_of_reads {α : Type} {e : Environment} {name : String} {read? : String → Option α}
    (h : e.Reads name read?) (expected : String) :
    parsed? e name expected read? = .ok (Origin.variableAs name read? e) := by
  unfold Environment.Reads at h
  unfold parsed? Origin.variableAs
  cases hvalue : e.value? name with
  | none => rfl
  | some text =>
    rw [hvalue, Option.all_some] at h
    obtain ⟨a, ha⟩ := Option.isSome_iff_exists.1 h
    simp only [Option.bind_some, ha]

def inEnvironment (e : Environment) : Layer where
  baseUrl := e.value? "SPLUNK_BASE_URL"
  username := e.value? "SPLUNK_USERNAME"
  password := e.value? "SPLUNK_PASSWORD"
  apiToken := e.value? "SPLUNK_API_TOKEN"
  skipVerify := Origin.variableAs "SPLUNK_SKIP_VERIFY" Text.switch? e
  timeout := (Origin.variableAs "SPLUNK_TIMEOUT" Text.word? e).map .ofSeconds
  maxRetries := Origin.variableAs "SPLUNK_MAX_RETRIES" Text.word? e
  sessionLifetime := Origin.variableAs "SPLUNK_SESSION_TTL" Text.word? e
  app := e.value? "CIM_SETUP_APP"
  owner := e.value? "CIM_SETUP_OWNER"
  realm := e.value? "CIM_SETUP_REALM"
  displayLimit := Origin.variableAs "CIM_SETUP_MAX_DISPLAY_COUNT" Text.word? e

theorem ofEnvironment_of_wellFormed {e : Environment} (h : e.WellFormed) :
    ofEnvironment e = .ok (inEnvironment e) := by
  unfold ofEnvironment
  rw [parsed?_of_reads h.skipVerify, parsed?_of_reads h.timeout, parsed?_of_reads h.maxRetries,
    parsed?_of_reads h.sessionLifetime, parsed?_of_reads h.displayLimit]
  rfl

/-- Layers of the three sources laid over each other settle each setting by itself. -/
theorem above_above_eq (s : Sources) :
    s.arguments.layer.above ((inEnvironment s.environment).above (s.profile.elim empty ofProfile)) =
      s.layer := by
  obtain ⟨a, e, profile⟩ := s
  unfold Sources.layer
  simp only [Origin.value?_eq, Option.map_or]
  cases profile <;> rfl

end Layer

/-! ## What is handed on -/

namespace Loader

theorem loadProfile_of_none {l : Loader} (h : l.profileName = none) : l.loadProfile = .ok l := by
  unfold loadProfile
  rw [h]

/-- A file that is not there is like one without profiles. -/
theorem loadProfile_of_profilesAt {l : Loader} {name : String} {ps : Profiles}
    (hname : l.profileName = some name)
    (h : profilesAt l.filePath (l.surroundings.files l.filePath) = .ok ps) :
    l.loadProfile = .ok (match ps.lookup name with
      | some p => l.lay (.ofProfile p)
      | none => { l with missingProfile := some name }) := by
  unfold loadProfile profilesAt at *
  rw [hname]
  dsimp only
  cases hthere : (l.surroundings.files l.filePath).isThere with
  | false =>
    rw [hthere] at h
    cases h
    rfl
  | true =>
    rw [hthere, if_pos rfl] at h
    rw [h]
    rfl

theorem credentials?_layer (s : Sources) : credentials? s.layer = s.credentials? := by
  unfold credentials? Sources.credentials? Sources.layer
  dsimp only
  cases Origin.apiToken.value? s with
  | some token => rfl
  | none => cases Origin.username.value? s <;> cases Origin.password.value? s <;> rfl

theorem isComplete_layer_iff (s : Sources) : s.layer.isComplete = true ↔ s.IsComplete := by
  unfold Sources.IsComplete Sources.credentials? Layer.isComplete Sources.layer
  dsimp only
  cases Origin.apiToken.value? s with
  | some token => simp
  | none =>
    cases Origin.username.value? s <;> cases Origin.password.value? s <;> simp

/-- What is built of the settings that sources give has its settings from them. -/
theorem settle_of_build {l : Loader} {s : Sources} {c : Config} (hlayer : l.layer = s.layer)
    (h : l.build = .ok c) : s.Settle c := by
  rw [build_eq_ok_iff, hlayer] at h
  obtain ⟨_, raw, base, credentials, hraw, hnormal, hcredentials, _, _, rfl⟩ := h
  rw [credentials?_layer] at hcredentials
  have htimeout : ((Origin.timeout.value? s).map Duration.ofSeconds).getD
      (.ofSeconds defaultTimeout) = .ofSeconds ((Origin.timeout.value? s).getD defaultTimeout) :=
    Option.getD_map ..
  exact { baseUrl := ⟨raw, hraw, hnormal⟩
          credentials := hcredentials
          skipVerify := rfl
          timeout := htimeout
          maxRetries := rfl
          sessionLifetime := rfl
          app := rfl
          owner := rfl
          realm := rfl
          displayLimit := rfl }

/-! ## When a missing profile matters -/

theorem needed_ne_profileNotFound {α : Type} {missing : ConfigError} {name : String}
    (hmissing : missing ≠ .profileNotFound name) {x : Option α} :
    needed missing x ≠ .error (.profileNotFound name) := by
  cases x with
  | some a => rintro ⟨⟩
  | none =>
    intro h
    exact hmissing (Except.error.inj h)

theorem normalBaseUrl_ne_profileNotFound (raw name : String) :
    normalBaseUrl raw ≠ .error (.profileNotFound name) := by
  unfold normalBaseUrl invalidBaseUrl
  intro h
  dsimp only at h
  repeat' split at h
  all_goals cases h

theorem limitProblem?_ne_profileNotFound (c : Connection) (name : String) :
    limitProblem? c ≠ some (.profileNotFound name) := by
  unfold limitProblem?
  intro h
  dsimp only at h
  repeat' split at h
  all_goals cases h

theorem targetProblem?_ne_profileNotFound (t : Target) (name : String) :
    targetProblem? t ≠ some (.profileNotFound name) := by
  unfold targetProblem?
  intro h
  repeat' split at h
  all_goals cases h

theorem assembled_ne_profileNotFound (l : Layer) (base : String) (c : Rest.Credentials)
    (name : String) : assembled l base c ≠ .error (.profileNotFound name) := by
  have hlimit := limitProblem?_ne_profileNotFound (connection l base) name
  have htarget := targetProblem?_ne_profileNotFound (target l) name
  unfold assembled
  cases hl : limitProblem? (connection l base) with
  | some problem =>
    rintro ⟨⟩
    exact hlimit hl
  | none =>
    cases ht : targetProblem? (target l) with
    | some problem =>
      rintro ⟨⟩
      exact htarget ht
    | none => rintro ⟨⟩

/-- Only a profile that is missing and needed is said not to be found. -/
theorem build_eq_profileNotFound_iff (l : Loader) (name : String) :
    l.build = .error (.profileNotFound name) ↔
      l.missingProfile = some name ∧ ¬ l.layer.isComplete = true := by
  have hproblem : l.profileProblem? = some (.profileNotFound name) ↔
      l.missingProfile = some name ∧ ¬ l.layer.isComplete = true := by
    unfold profileProblem?
    cases l.layer.isComplete <;> simp
  rw [build_eq, ← hproblem]
  cases hp : l.profileProblem? with
  | some problem =>
    show Except.error problem = _ ↔ _
    simp
  | none =>
    refine iff_of_false (fun h => ?_) (by simp)
    -- whatever fails further on is told as something else
    rcases of_bind_eq_error h with h | ⟨_, _, h⟩
    · cases h
    rcases of_bind_eq_error h with h | ⟨base, _, h⟩
    · rcases of_bind_eq_error h with h | ⟨raw, _, h⟩
      · exact needed_ne_profileNotFound (by simp) h
      · exact normalBaseUrl_ne_profileNotFound raw name h
    · rcases of_bind_eq_error h with h | ⟨c, _, h⟩
      · exact needed_ne_profileNotFound (by simp) h
      · exact assembled_ne_profileNotFound _ base c name h

end Loader

end Config

section MapError
variable {ε ε' α : Type} {x : Except ε α} {f : ε → ε'}

theorem mapError_eq_ok_iff {a : α} : x.mapError f = .ok a ↔ x = .ok a := by
  cases x <;> simp [Except.mapError]

theorem mapError_eq_error_iff (hf : Function.Injective f) {e : ε} :
    x.mapError f = .error (f e) ↔ x = .error e := by
  cases x with
  | ok a => simp [Except.mapError]
  | error e' => exact ⟨fun h => congrArg _ (hf (Except.error.inj h)), fun h => by cases h; rfl⟩

end MapError

namespace Arguments
open Config

def sources (a : Arguments) (e : Environment) (ps : Profiles) : Sources :=
  ⟨a, e, a.profile.bind fun name => ps.lookup name⟩

/-- The profile that is selected although there is none of its name. -/
def missingProfile? (a : Arguments) (ps : Profiles) : Option String :=
  a.profile.filter fun name => (ps.lookup name).isNone

section Settled
variable {a : Arguments} {s : Surroundings} {ps : Profiles}
  (hfile : a.profile.isSome = true →
    profilesAt (a.loader s).filePath (s.files (a.loader s).filePath) = .ok ps)

include hfile

/-- The profile that is selected is laid at the bottom, or noted as missing. -/
theorem loadProfile_loader : (a.loader s).loadProfile = .ok { a.loader s with
    layer := (a.sources s.environment ps).profile.elim .empty .ofProfile
    missingProfile := a.missingProfile? ps } := by
  unfold missingProfile? sources
  cases hprofile : a.profile with
  | none => exact Loader.loadProfile_of_none hprofile
  | some name =>
    have hname : (a.loader s).profileName = some name := hprofile
    rw [Loader.loadProfile_of_profilesAt hname (hfile (by rw [hprofile]; rfl)), Option.bind_some,
      Option.filter_some]
    cases ps.lookup name with
    | none => rfl
    | some p =>
      have hlayer : (Layer.ofProfile p).above (a.loader s).layer = .ofProfile p :=
        Layer.above_empty _
      exact congrArg (fun layer => Except.ok { a.loader s with layer }) hlayer

variable (henv : s.environment.WellFormed)

include henv

/-- A configuration is built of the settings that the sources give. -/
theorem config_eq_build : a.config s = (Loader.build { a.loader s with
    layer := (a.sources s.environment ps).layer
    missingProfile := a.missingProfile? ps }).mapError (Failure.config .build) := by
  rw [← Layer.above_above_eq]
  unfold config Loader.loadEnvironment
  rw [loadProfile_loader hfile]
  simp only [Except.mapError, bind, Except.bind, loader, Loader.start]
  rw [Layer.ofEnvironment_of_wellFormed henv]
  rfl

/-- Every setting is taken from the highest source that gives it, for itself and before anything is
checked: the settings that are checked are those of the sources, and a configuration that passes has
them, or the defaults of those that no source gives. A selected profile that is missing gives no
setting, and is a failure exactly if the others leave the server or the credentials open. -/
theorem config_settled :
    (∃ l : Loader, l.layer = (a.sources s.environment ps).layer ∧
      l.missingProfile = a.missingProfile? ps ∧
      a.config s = l.build.mapError (Failure.config .build)) ∧
    (∀ c, a.config s = .ok c → (a.sources s.environment ps).Settle c) ∧
    (∀ name, a.config s = .error (.config .build (.profileNotFound name)) ↔
      a.missingProfile? ps = some name ∧ ¬ (a.sources s.environment ps).IsComplete) := by
  have hbuild := config_eq_build hfile henv
  refine ⟨⟨_, rfl, rfl, hbuild⟩, fun c hc => ?_, fun name => ?_⟩
  · rw [hbuild, mapError_eq_ok_iff] at hc
    exact Loader.settle_of_build (by rfl) hc
  · rw [hbuild, mapError_eq_error_iff fun _ _ h => (Failure.config.inj h).2,
      Loader.build_eq_profileNotFound_iff, ← Loader.isComplete_layer_iff]

end Settled

/-! ## A run whose sources overlap -/

/-- The settings of the profile "dev". -/
def mingledProfile : Profile where
  baseUrl := some "https://h/"
  password := some "old"
  timeoutSeconds := some 9
  app := some "A"

/-- A file with that profile, and variables of which one is blank. -/
def mingledSurroundings : Surroundings where
  environment := ⟨[("SPLUNK_BASE_URL", " "), ("SPLUNK_USERNAME", "u"), ("SPLUNK_PASSWORD", " new "),
    ("SPLUNK_TIMEOUT", "15"), ("SPLUNK_SKIP_VERIFY", "false"), ("CIM_SETUP_OWNER", "me")]⟩
  accountHome := "/"
  files
    | "c.json" => .file ("\x7b\"profiles\":\x7b\"dev\":\x7b\"base_url\":\"https://h/\"," ++
        "\"password\":\"old\",\"timeout_seconds\":9,\"app\":\"A\",\"realm\":null\x7d\x7d\x7d")
    | _ => .absent

/-- The profile "dev" is selected, and two settings are given. -/
def mingledArguments : Arguments :=
  .ofValues ([("profile", "dev"), ("config-path", "c.json"), ("username", "v"),
    ("skip-verify", "true")].lookup ·) .check

/-- The address and the app come from the profile, the password, the timeout and the owner from the
environment, the rest from the command line or from nowhere. -/
def mingledConfig : Config where
  connection := ⟨"https://h", true, .ofSeconds 15, defaultRetries, defaultMargin, defaultLifetime⟩
  credentials := .login "v" "new"
  target := { Target.standard with app := "A", owner := "me" }

theorem mingled_config_settled :
    mingledArguments.config mingledSurroundings = .ok mingledConfig ∧
    (mingledArguments.sources mingledSurroundings.environment
      [("dev", mingledProfile)]).Settle mingledConfig := by
  have hconfig : mingledArguments.config mingledSurroundings = .ok mingledConfig := by
    decide +kernel
  have henv : mingledSurroundings.environment.WellFormed := by
    constructor <;> (unfold Environment.Reads; decide +kernel)
  refine ⟨hconfig, (config_settled (fun _ => ?_) henv).2.1 _ hconfig⟩
  decide +kernel

end Arguments

end AccelForm
