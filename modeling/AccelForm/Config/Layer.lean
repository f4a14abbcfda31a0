import AccelForm.Config.Basic
import AccelForm.Config.Environment
import AccelForm.Config.Error
/-
  Layers of settings

  Each source of settings is a layer in which any setting may be missing. A
  layer laid over another one hides the settings that both have and no others.
  Profiles and environments are read as layers.
-/

namespace AccelForm.Config

/-- The settings that one source gives. -/
structure Layer where
  baseUrl : Option String := none
  username : Option String := none
  password : Option String := none
  apiToken : Option String := none
  skipVerify : Option Bool := none
  timeout : Option Duration := none
  maxRetries : Option Nat := none
  sessionLifetime : Option Nat := none
  app : Option String := none
  owner : Option String := none
  realm : Option String := none
  displayLimit : Option Nat := none
  deriving DecidableEq, Repr

namespace Layer

/-- The layer without settings. -/
def empty : Layer := {}

/-- One layer laid over another. -/
def above (upper lower : Layer) : Layer where
  baseUrl := upper.baseUrl.or lower.baseUrl
  username := upper.username.or lower.username
  password := upper.password.or lower.password
  apiToken := upper.apiToken.or lower.apiToken
  skipVerify := upper.skipVerify.or lower.skipVerify
  timeout := upper.timeout.or lower.timeout
  maxRetries := upper.maxRetries.or lower.maxRetries
  sessionLifetime := upper.sessionLifetime.or lower.sessionLifetime
  app := upper.app.or lower.app
  owner := upper.owner.or lower.owner
  realm := upper.realm.or lower.realm
  displayLimit := upper.displayLimit.or lower.displayLimit

/-- Whether the layer says which server to call and with which credentials. -/
def isComplete (l : Layer) : Bool :=
  l.baseUrl.isSome && (l.apiToken.isSome || (l.username.isSome && l.password.isSome))

def ofProfile (p : Profile) : Layer where
  baseUrl := p.baseUrl
  username := p.username
  password := p.password
  apiToken := p.apiToken
  skipVerify := p.skipVerify
  timeout := p.timeoutSeconds.map .ofSeconds
  maxRetries := p.maxRetries
  sessionLifetime := p.sessionLifetime
  app := p.app
  owner := p.owner
  realm := p.realm
  displayLimit := p.displayLimit

/-- The value of a variable that must have a certain form if it is set. -/
def parsed? (e : Environment) (name expected : String) (read? : String → Option α) :
    Except ConfigError (Option α) :=
  match e.value? name with
  | none => .ok none
  | some s =>
    match read? s with
    | some a => .ok (some a)
    | none => .error (.invalidValue name ("must be " ++ expected))

def ofEnvironment (e : Environment) : Except ConfigError Layer := do
  let skipVerify ← parsed? e "SPLUNK_SKIP_VERIFY" "true or false" Text.switch?
  let timeout ← parsed? e "SPLUNK_TIMEOUT" "a number of seconds" Text.word?
  let maxRetries ← parsed? e "SPLUNK_MAX_RETRIES" "a non-negative integer" Text.word?
  let sessionLifetime ← parsed? e "SPLUNK_SESSION_TTL" "a number of seconds" Text.word?
  let displayLimit ← parsed? e "CIM_SETUP_MAX_DISPLAY_COUNT" "a non-negative integer" Text.word?
  return {
    skipVerify, maxRetries, sessionLifetime, displayLimit
    baseUrl := e.value? "SPLUNK_BASE_URL"
    username := e.value? "SPLUNK_USERNAME"
    password := e.value? "SPLUNK_PASSWORD"
    apiToken := e.value? "SPLUNK_API_TOKEN"
    timeout := timeout.map .ofSeconds
    app := e.value? "CIM_SETUP_APP"
    owner := e.value? "CIM_SETUP_OWNER"
    realm := e.value? "CIM_SETUP_REALM" }

end Layer

end AccelForm.Config
