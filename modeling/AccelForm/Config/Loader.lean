import AccelForm.Config.BaseUrl
import AccelForm.Config.Dotenv
import AccelForm.Config.Layer
import AccelForm.Files
/-
  Putting a configuration together

  Layers of settings are laid over each other, the later over the earlier. A
  profile is looked up in the configuration file; where the file or the
  profile is missing, this matters only if the other layers leave open which
  server to call or with which credentials. In the end every setting that no
  layer has gets its default, and the limits are checked.
-/

namespace AccelForm.Config

/-- What a configuration is put together from, apart from settings given directly. -/
structure Surroundings where
  environment : Environment
  accountHome : String
  files : Files

/-- A configuration that is being put together. -/
structure Loader where
  surroundings : Surroundings
  layer : Layer := {}
  profileName : Option String := none
  path : Option String := none
  missingProfile : Option String := none

/-- Where the configuration file stands below the directory for configurations. -/
def filePlace : String := "cim-setup/config.json"

def configDirectory (s : Surroundings) : String :=
  match (s.environment.raw? "XDG_CONFIG_HOME").filter isAbsolutePath with
  | some directory => directory
  | none =>
    joinPath (((s.environment.raw? "HOME").filter (· ≠ "")).getD s.accountHome) ".config"

namespace Loader

/-- The loader without settings. -/
def start (s : Surroundings) : Loader := { surroundings := s }

/-- Lays settings over those so far. -/
def lay (l : Loader) (upper : Layer) : Loader := { l with layer := upper.above l.layer }

def withProfileName (l : Loader) (name : String) : Loader := { l with profileName := some name }

/-- Says where the configuration file is. -/
def withPath (l : Loader) (path : String) : Loader := { l with path := some path }

/-- Where the variable file is. -/
def dotenvPath : String := ".env"

/-- Sets the variables of the variable file, unless that is turned off. -/
def loadDotenv (l : Loader) : Except ConfigError Loader :=
  let e := l.surroundings.environment
  if ["true", "1"].contains ((e.raw? "DOTENV_DISABLED").getD "") then .ok l else
  match l.surroundings.files dotenvPath with
  | .file contents =>
    match Dotenv.apply e contents with
    | .ok e => .ok { l with surroundings := { l.surroundings with environment := e } }
    | .error position => .error (.malformedDotenv position)
  | _ => .ok l

/-- Lays the settings of the environment over those so far. -/
def loadEnvironment (l : Loader) : Except ConfigError Loader :=
  (Layer.ofEnvironment l.surroundings.environment).map l.lay

def readProfiles (path : String) (node : FileNode) : Except ConfigError Profiles :=
  match node.read with
  | .error _ => .error (.unreadableFile path)
  | .ok contents =>
    match Read.profiles.run contents with
    | none => .error (.malformedFile path)
    | some ps => .ok ps

def filePath (l : Loader) : String :=
  l.path.getD (joinPath (configDirectory l.surroundings) filePlace)

/-- Lays the settings of the selected profile over those so far. -/
def loadProfile (l : Loader) : Except ConfigError Loader :=
  match l.profileName with
  | none => .ok l
  | some name =>
    let node := l.surroundings.files l.filePath
    if !node.isThere then .ok { l with missingProfile := some name }
    else (readProfiles l.filePath node).map fun ps =>
      match ps.lookup name with
      | some p => l.lay (.ofProfile p)
      | none => { l with missingProfile := some name }

/-- The largest number of seconds for which a request may take. -/
def maxTimeout : Nat := 3600

def retryLimit : Nat := 10

/-- The largest number of seconds for which a session may live. -/
def maxLifetime : Nat := 86400

def connection (l : Layer) (baseUrl : String) : Connection where
  baseUrl := baseUrl
  skipVerify := l.skipVerify.getD false
  timeout := l.timeout.getD (.ofSeconds defaultTimeout)
  maxRetries := l.maxRetries.getD defaultRetries
  renewalMargin := defaultMargin
  sessionLifetime := l.sessionLifetime.getD defaultLifetime

def limitProblem? (c : Connection) : Option ConfigError :=
  let seconds := c.timeout.wholeSeconds
  if seconds = 0 || maxTimeout < seconds then
    some (.invalidTimeout ("must be between 1 and " ++ toString maxTimeout ++ " seconds (got " ++
      toString seconds ++ ")"))
  else if retryLimit < c.maxRetries then
    some (.invalidRetries ("must be between 0 and " ++ toString retryLimit ++ " (got " ++
      toString c.maxRetries ++ ")"))
  else if c.sessionLifetime ≤ c.renewalMargin || maxLifetime < c.sessionLifetime then
    some (.invalidLifetime ("session_ttl_seconds must be above " ++ toString c.renewalMargin ++
      " and at most " ++ toString maxLifetime ++ " (got " ++ toString c.sessionLifetime ++ ")"))
  else none

/-- The credentials of a layer; a token counts before a user name and a password. -/
def credentials? (l : Layer) : Option Rest.Credentials :=
  match l.apiToken, l.username, l.password with
  | some token, _, _ => some (.token token)
  | none, some username, some password => some (.login username password)
  | _, _, _ => none

/-- The part of the server that a layer describes. -/
def target (l : Layer) : Target where
  app := l.app.getD Target.standard.app
  owner := l.owner.getD Target.standard.owner
  realm := l.realm.getD Target.standard.realm
  capability := Target.standard.capability
  displayLimit := l.displayLimit.getD Target.standard.displayLimit

/-- What is wrong with the part of the server. -/
def targetProblem? (t : Target) : Option ConfigError :=
  match [("app", t.app), ("owner", t.owner), ("realm", t.realm)].find?
      fun (_, value) => Text.isBlankText value with
  | some (name, _) => some (.invalidValue name "must not be empty")
  | none =>
    if t.displayLimit = 0 then some (.invalidValue "max_display_count" "must be greater than 0")
    else none

/-- The configuration, if it is complete and within its limits. -/
def build (l : Loader) : Except ConfigError Config := do
  match l.missingProfile with
  | some name => if !l.layer.isComplete then throw (.profileNotFound name)
  | none => pure ()
  let baseUrl ← match l.layer.baseUrl with
    | some raw => normalBaseUrl raw
    | none => throw .missingBaseUrl
  let credentials ← match credentials? l.layer with
    | some c => pure c
    | none => throw .missingCredentials
  let c := connection l.layer baseUrl
  match limitProblem? c with
  | some problem => throw problem
  | none => pure ()
  let t := target l.layer
  match targetProblem? t with
  | some problem => throw problem
  | none => pure ()
  return ⟨c, credentials, t⟩

end Loader

end AccelForm.Config
