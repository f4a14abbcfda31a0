import AccelForm.Rest.Exchange
import AccelForm.Rest.Resource
/-
  Calls to the server

  Each call is one exchange at an endpoint. A call shows the fixed token or
  the session key; a key that is missing or due for renewal is fetched by a
  login first. When the server refuses the key, the caller logs in once more
  and repeats the call once.
-/

namespace AccelForm.Rest

/-- The pair that asks for answers in JSON. -/
def jsonMode : String × String := ("output_mode", "json")

/-- The pair that asks for a list in full. -/
def allEntries : String × String := ("count", "-1")

def passwordOwner : String := "nobody"

def passwordEntity (realm name : String) : String := realm ++ ":" ++ name ++ ":"

def namespacedAddress (base owner app rest : String) : String :=
  base ++ "/servicesNS/" ++ Url.encodeSegment owner ++ "/" ++ Url.encodeSegment app ++ "/" ++ rest

def macroAddress (base owner app name : String) : String :=
  namespacedAddress base owner app ("admin/macros/" ++ Url.encodeSegment name)

def dataModelAddress (base owner app name : String) : String :=
  namespacedAddress base owner app ("data/models/" ++ Url.encodeSegment name)

def passwordAddress (base app realm name : String) : String :=
  namespacedAddress base passwordOwner app
    ("storage/passwords/" ++ Url.encodeSegment (passwordEntity realm name))

namespace Client

open Exchange

/-- The part of a value that a key or a position leads to. -/
def part? (key : String) : Json → Option Json
  | .object members => members.lookup key
  | .array items => if key = "0" then items.head? else none
  | _ => none

/-- The session key in the answer to a login: at the top, or in the first entry. -/
def sessionKey? (v : Json) : Option String :=
  let found := (v.member? "sessionKey").or
    ((v.member? "entry").bind fun es => (part? "0" es).bind fun e =>
      (e.member? "content").bind (·.member? "sessionKey"))
  match found with
  | some (.string key) => some key
  | _ => none

def refusedLogin (username : String) : Fault → Fault
  | .refused 401 _ _ _ => .authFailed ("invalid credentials for user '" ++ username ++ "'")
  | f => f

/-- Replaces the fault of a step. -/
def mapFault (f : Fault → Fault) (x : Exchange α) : Exchange α :=
  tryCatch x fun fault => throw (f fault)

/-- Logs in: the session key. -/
def logIn (link : Link) (username password : String) : Exchange String := do
  let r ← mapFault (refusedLogin username) (send link ⟨"/services/auth/login", .post⟩ {
    method := .post
    address := link.baseUrl ++ "/services/auth/login"
    query := [jsonMode]
    bearer := none
    form := [("username", username), ("password", password)] })
  match sessionKey? (← parsed "login" Json.Reader.value r) with
  | some key => return key
  | none => throw (.invalidResponse "Missing sessionKey in response")

/-- What to show to the server, after a login if one is needed. -/
def bearer (link : Link) : Exchange String := do
  let w ← get
  if w.session.isExpired w.clock || w.session.isDue w.clock then
    match w.session.credentials with
    | .token _ => throw (.authFailed "Cannot login with API token auth strategy")
    | .login username password =>
      let key ← logIn link username password
      modify fun w => { w with
        session := w.session.receive w.clock key (some link.lifetime) (some link.margin) }
  match (← get).session.bearer? with
  | some shown => return shown
  | none => throw (.sessionExpired w.session.principal)

/-- Forgets the session key. -/
def forget : Exchange Unit := modify fun w => { w with session := w.session.clear }

/-- Whether a fault is a refusal of what was shown. -/
def isRefusal : Fault → Bool
  | .refused status _ _ _ => status == 401 || status == 403
  | _ => false

/-- Makes a call; where the session key is refused, once more with a new one. -/
def renewing (link : Link) (call : String → Exchange α) : Exchange α := do
  let shown ← bearer link
  tryCatch (call shown) fun f => do
    if isRefusal f && !(← get).session.hasToken then
      forget
      call (← bearer link)
    else throw f

/-- Logs in anew; nothing for a fixed token. -/
def logInAnew (link : Link) : Exchange Unit := do
  if (← get).session.hasToken then return
  forget
  discard (bearer link)

def listing (link : Link) (endpoint address what : String) (query : List (String × String))
    (content : Json.Reader α) : Exchange (List (Entry α)) :=
  renewing link fun shown => do
    let r ← send link ⟨endpoint, .get⟩ {
      method := .get
      address := address
      query := jsonMode :: query
      bearer := some shown
      form := [] }
    parsed what (Read.entries content) r

/-- Asks for a list whose first entry is what is wanted. -/
def single (link : Link) (endpoint what : String) (content : Json.Reader α) : Exchange α :=
  renewing link fun shown => do
    let r ← send link ⟨endpoint, .get⟩ {
      method := .get
      address := link.baseUrl ++ endpoint
      query := [jsonMode]
      bearer := some shown
      form := [] }
    match ← parsed what (Read.entries content) r with
    | e :: _ => return e.content
    | [] => throw (.invalidResponse (what ++ " returned no entry"))

def posting (link : Link) (endpoint address : String) (form : List (String × String)) :
    Exchange Unit :=
  renewing link fun shown =>
    discard (send link ⟨endpoint, .post⟩ {
      method := .post
      address := address
      query := [jsonMode]
      bearer := some shown
      form := form })

/-- The caller as the server knows them. -/
def caller (link : Link) : Exchange Caller :=
  single link "/services/authentication/current-context" "current-context" Read.caller

def serverInfo (link : Link) : Exchange ServerInfo :=
  single link "/services/server/info" "server info" Read.serverInfo

def indexes (link : Link) : Exchange (List Index) :=
  namedIndexes <$> listing link "/services/data/indexes"
    (link.baseUrl ++ "/services/data/indexes") "indexes" [allEntries] Read.index

def tags (link : Link) : Exchange (List Tag) :=
  namedTags <$> listing link "/services/search/tags"
    (link.baseUrl ++ "/services/search/tags") "tags" [allEntries] Read.tag

/-- The search macros that a search clause selects, or all. -/
def searchMacros (link : Link) (owner app : String) (search : Option String) :
    Exchange (List SearchMacro) :=
  namedMacros <$> listing link "/servicesNS/admin/macros"
    (namespacedAddress link.baseUrl owner app "admin/macros") "macros"
    (allEntries :: (search.map ("search", ·)).toList) Read.searchMacro

def dataModels (link : Link) (owner app : String) : Exchange (List DataModel) :=
  namedDataModels <$> listing link "/servicesNS/data/models"
    (namespacedAddress link.baseUrl owner app "data/models") "data models" [allEntries]
    Read.dataModel

def updateMacro (link : Link) (owner app name definition : String) : Exchange Unit :=
  posting link ("/servicesNS/admin/macros/" ++ "\x7bname\x7d")
    (macroAddress link.baseUrl owner app name) [("definition", definition)]

def updateDataModel (link : Link) (owner app name : String) (params : List (String × String)) :
    Exchange Unit :=
  posting link ("/servicesNS/data/models/" ++ "\x7bname\x7d")
    (dataModelAddress link.baseUrl owner app name) params

/-- Stores a password that does not exist yet. -/
def createPassword (link : Link) (app realm name password : String) : Exchange Unit :=
  posting link "/servicesNS/storage/passwords"
    (namespacedAddress link.baseUrl passwordOwner app "storage/passwords")
    [("name", name), ("password", password), ("realm", realm)]

def unknownPassword (realm name : String) : Fault → Fault
  | .refused 404 _ _ _ => .notFound ("credential '" ++ passwordEntity realm name ++ "'")
  | f => f

def passwordEndpoint : String := "/servicesNS/storage/passwords/" ++ "\x7bname\x7d"

def passwords (link : Link) (app realm name : String) : Exchange (List StoredPassword) :=
  renewing link fun shown => do
    let r ← mapFault (unknownPassword realm name) (send link ⟨passwordEndpoint, .get⟩ {
      method := .get
      address := passwordAddress link.baseUrl app realm name
      query := [jsonMode]
      bearer := some shown
      form := [] })
    namedPasswords <$> parsed "credential" (Read.entries Read.storedPassword) r

def deletePassword (link : Link) (app realm name : String) : Exchange Unit :=
  renewing link fun shown =>
    mapFault (unknownPassword realm name) (discard (send link ⟨passwordEndpoint, .delete⟩ {
      method := .delete
      address := passwordAddress link.baseUrl app realm name
      query := [jsonMode]
      bearer := some shown
      form := [] }))

/-- A base address without the slashes at its end. -/
def baseAddress (base : String) : String :=
  String.ofList (Text.dropEnd (· == '/') base.toList)

/-- The link and the wire for credentials and a base address, neither of which may be missing. -/
def connect (link : Link) (baseUrl : Option String) (credentials : Option Credentials) :
    Except Fault (Link × Wire) :=
  match baseUrl, credentials with
  | none, _ => .error (.invalidUrl "base_url is required")
  | some _, none => .error (.authFailed "auth_strategy is required")
  | some base, some c =>
    .ok ({ link with baseUrl := baseAddress base }, .start c)

end Client

end AccelForm.Rest
