import AccelForm.Json.Record
import AccelForm.Rest.Session
/-
  Configuration

  A configuration says which server to call and how, with which credentials,
  and which part of the server the form is about. It is stored as a JSON
  record; durations are stored in whole seconds. A configuration file holds
  profiles under names, each with any of the settings.
-/

namespace AccelForm.Config

open Json (Reader Fields)

/-- How to call the server. -/
structure Connection where
  baseUrl : String
  skipVerify : Bool
  timeout : Duration
  maxRetries : Nat
  renewalMargin : Nat
  sessionLifetime : Nat
  deriving DecidableEq, Repr

/-- The seconds for which a request may take if nothing else is said. -/
def defaultTimeout : Nat := 30

/-- The retries of a request if nothing else is said. -/
def defaultRetries : Nat := 3

/-- The seconds before its end at which a session is renewed. -/
def defaultMargin : Nat := 60

/-- The seconds for which a session lives if nothing else is said. -/
def defaultLifetime : Nat := 3600

/-- The part of the server that the form is about. -/
structure Target where
  app : String
  owner : String
  realm : String
  capability : String
  displayLimit : Nat
  deriving DecidableEq, Repr

/-- The part that the form is about if nothing else is said. -/
def Target.standard : Target :=
  ⟨"Splunk_SA_CIM", "nobody", "cam_queue", "accelerate_datamodel", 70⟩

structure Profile where
  baseUrl : Option String := none
  username : Option String := none
  password : Option String := none
  apiToken : Option String := none
  skipVerify : Option Bool := none
  timeoutSeconds : Option Nat := none
  maxRetries : Option Nat := none
  sessionLifetime : Option Nat := none
  app : Option String := none
  owner : Option String := none
  realm : Option String := none
  displayLimit : Option Nat := none
  deriving DecidableEq, Repr

/-- Profiles under their names, in the order of the names. -/
abbrev Profiles := List (String × Profile)

namespace Read

/-- Reads how to call the server. -/
def connection : Reader Connection := fun room d => do
  let fs ← Fields.read? ["base_url", "skip_verify", "timeout", "max_retries",
    "session_expiry_buffer_seconds", "session_ttl_seconds"] room d
  return {
    baseUrl := ← fs.required "base_url" Reader.text
    skipVerify := ← fs.required "skip_verify" Reader.switch
    timeout := .ofSeconds (← fs.required "timeout" Reader.word)
    maxRetries := ← fs.required "max_retries" Reader.word
    renewalMargin := ← fs.getD "session_expiry_buffer_seconds" defaultMargin Reader.word
    sessionLifetime := ← fs.getD "session_ttl_seconds" defaultLifetime Reader.word }

/-- Whether a document names the kind of credentials with the given name and number. -/
def isKind (name : String) (number : Int) : Json.Document → Bool
  | .string (some s) => s == name
  | .number (some (.int i)) => i == number
  | _ => false

/-- Reads credentials: an object that names their kind, in which every value can be read. -/
def credentials : Reader Rest.Credentials := fun room d => do
  let _ ← d.value? room
  let fs ← Fields.ofObject? ["type"] room d
  let kind ← fs.found.lookup "type"
  if isKind "session" 0 kind then
    let own ← Fields.ofObject? ["username", "password"] room d
    return .login (← own.required "username" Reader.text) (← own.required "password" Reader.text)
  else if isKind "token" 1 kind then
    let own ← Fields.ofObject? ["token"] room d
    return .token (← own.required "token" Reader.text)
  else none

/-- Reads the part that the form is about. -/
def target : Reader Target := fun room d => do
  let fs ← Fields.read? ["app", "owner", "realm", "capability", "max_display_count"] room d
  return {
    app := ← fs.getD "app" Target.standard.app Reader.text
    owner := ← fs.getD "owner" Target.standard.owner Reader.text
    realm := ← fs.getD "realm" Target.standard.realm Reader.text
    capability := ← fs.getD "capability" Target.standard.capability Reader.text
    displayLimit := ← fs.getD "max_display_count" Target.standard.displayLimit Reader.word }

def profile : Reader Profile := fun room d => do
  let fs ← Fields.read? ["base_url", "username", "password", "api_token", "skip_verify",
    "timeout_seconds", "max_retries", "session_ttl_seconds", "app", "owner", "realm",
    "max_display_count"] room d
  return {
    baseUrl := ← fs.getD "base_url" none (Reader.optional Reader.text)
    username := ← fs.getD "username" none (Reader.optional Reader.text)
    password := ← fs.getD "password" none (Reader.optional Reader.text)
    apiToken := ← fs.getD "api_token" none (Reader.optional Reader.text)
    skipVerify := ← fs.getD "skip_verify" none (Reader.optional Reader.switch)
    timeoutSeconds := ← fs.getD "timeout_seconds" none (Reader.optional Reader.word)
    maxRetries := ← fs.getD "max_retries" none (Reader.optional Reader.word)
    sessionLifetime := ← fs.getD "session_ttl_seconds" none (Reader.optional Reader.word)
    app := ← fs.getD "app" none (Reader.optional Reader.text)
    owner := ← fs.getD "owner" none (Reader.optional Reader.text)
    realm := ← fs.getD "realm" none (Reader.optional Reader.text)
    displayLimit := ← fs.getD "max_display_count" none (Reader.optional Reader.word) }

/-- Puts a profile among profiles in the order of their names, over one of the same name. -/
def insertProfile (ps : Profiles) (p : String × Profile) : Profiles :=
  match ps with
  | [] => [p]
  | q :: rest =>
    if p.1 = q.1 then p :: rest
    else if p.1 < q.1 then p :: q :: rest
    else q :: insertProfile rest p

/-- Reads a configuration file; of two profiles with one name the later one counts. -/
def profiles : Reader Profiles := fun room d => do
  let fs ← Fields.read? ["profiles"] room d
  let found ← fs.getD "profiles" [] (Reader.members profile)
  return found.foldl insertProfile []

end Read

end AccelForm.Config

namespace AccelForm

open Json (Reader Fields)

structure Config where
  connection : Config.Connection
  credentials : Rest.Credentials
  target : Config.Target
  deriving DecidableEq, Repr

def Config.read : Reader Config := fun room d => do
  let fs ← Fields.read? ["connection", "auth", "setup"] room d
  return {
    connection := ← fs.required "connection" Config.Read.connection
    credentials := ← fs.required "auth" Config.Read.credentials
    target := ← fs.getD "setup" Config.Target.standard Config.Read.target }

end AccelForm
