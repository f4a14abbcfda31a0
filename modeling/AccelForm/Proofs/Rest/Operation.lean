import AccelForm.Rest.Client
/-
  The calls of a client

  A client makes eleven calls. Each is one exchange with its endpoint, made
  with what the caller shows, and made once more where that is refused
  (`perform_run`): it sends the draft of the call, and makes of the outcome
  what the call brings.
-/

namespace AccelForm.Rest

/-- A call that a client can make. -/
inductive Operation where
  | caller
  | serverInfo
  | indexes
  | tags
  | searchMacros (owner app : String) (search : Option String)
  | dataModels (owner app : String)
  | updateMacro (owner app name definition : String)
  | updateDataModel (owner app name : String) (params : List (String × String))
  | createPassword (app realm name password : String)
  | passwords (app realm name : String)
  | deletePassword (app realm name : String)

/-- What the body of a response is read as; `what` names it. -/
def Response.readAs {α : Type} (what : String) (read : Json.Reader α) (r : Response) :
    Except Fault α :=
  match read.run r.body with
  | some a => .ok a
  | none => .error (.invalidResponse ("Failed to parse " ++ what ++
      " response: error decoding response body for url (" ++ r.url ++ ")"))

/-- The content of the first of the entries in the body of a response; `what` names it. -/
def Response.firstAs {α : Type} (what : String) (content : Json.Reader α) (r : Response) :
    Except Fault α := do
  match ← r.readAs what (Read.entries content) with
  | e :: _ => return e.content
  | [] => throw (.invalidResponse (what ++ " returned no entry"))

namespace Operation

open Client

/-- What a call brings. -/
def Result : Operation → Type
  | caller => Caller
  | serverInfo => ServerInfo
  | indexes => List Index
  | tags => List Tag
  | searchMacros .. => List SearchMacro
  | dataModels .. => List DataModel
  | passwords .. => List StoredPassword
  | updateMacro .. | updateDataModel .. | createPassword .. | deletePassword .. => Unit

def perform (link : Link) : (op : Operation) → Exchange op.Result
  | caller => Client.caller link
  | serverInfo => Client.serverInfo link
  | indexes => Client.indexes link
  | tags => Client.tags link
  | searchMacros owner app search => Client.searchMacros link owner app search
  | dataModels owner app => Client.dataModels link owner app
  | updateMacro owner app name definition => Client.updateMacro link owner app name definition
  | updateDataModel owner app name params => Client.updateDataModel link owner app name params
  | createPassword app realm name password => Client.createPassword link app realm name password
  | passwords app realm name => Client.passwords link app realm name
  | deletePassword app realm name => Client.deletePassword link app realm name

def endpoint : Operation → String
  | caller => "/services/authentication/current-context"
  | serverInfo => "/services/server/info"
  | indexes => "/services/data/indexes"
  | tags => "/services/search/tags"
  | searchMacros .. => "/servicesNS/admin/macros"
  | dataModels .. => "/servicesNS/data/models"
  | updateMacro .. => "/servicesNS/admin/macros/" ++ "\x7bname\x7d"
  | updateDataModel .. => "/servicesNS/data/models/" ++ "\x7bname\x7d"
  | createPassword .. => "/servicesNS/storage/passwords"
  | passwords .. | deletePassword .. => passwordEndpoint

def method : Operation → Method
  | updateMacro .. | updateDataModel .. | createPassword .. => .post
  | deletePassword .. => .delete
  | _ => .get

/-- The address that a call is made at. -/
def address (base : String) : Operation → String
  | caller => base ++ caller.endpoint
  | serverInfo => base ++ serverInfo.endpoint
  | indexes => base ++ indexes.endpoint
  | tags => base ++ tags.endpoint
  | searchMacros owner app _ => namespacedAddress base owner app "admin/macros"
  | dataModels owner app => namespacedAddress base owner app "data/models"
  | updateMacro owner app name _ => macroAddress base owner app name
  | updateDataModel owner app name _ => dataModelAddress base owner app name
  | createPassword app .. => namespacedAddress base passwordOwner app "storage/passwords"
  | passwords app realm name | deletePassword app realm name =>
    passwordAddress base app realm name

def query : Operation → List (String × String)
  | indexes | tags | dataModels .. => [jsonMode, allEntries]
  | searchMacros _ _ search => jsonMode :: allEntries :: (search.map ("search", ·)).toList
  | _ => [jsonMode]

/-- The form that a call posts. -/
def form : Operation → List (String × String)
  | updateMacro _ _ _ definition => [("definition", definition)]
  | updateDataModel _ _ _ params => params
  | createPassword _ realm name password =>
    [("name", name), ("password", password), ("realm", realm)]
  | _ => []

/-- The draft of a call with what the caller shows. -/
def draft (base : String) (op : Operation) (shown : String) : Draft where
  method := op.method
  address := op.address base
  query := op.query
  bearer := some shown
  form := op.form

/-- What a call makes of the outcome of its exchange. -/
def outcome : (op : Operation) → Except Fault Response → Except Fault op.Result
  | caller, o => o.bind (·.firstAs "current-context" Read.caller)
  | serverInfo, o => o.bind (·.firstAs "server info" Read.serverInfo)
  | indexes, o => (o.bind (·.readAs "indexes" (Read.entries Read.index))).map namedIndexes
  | tags, o => (o.bind (·.readAs "tags" (Read.entries Read.tag))).map namedTags
  | searchMacros .., o =>
    (o.bind (·.readAs "macros" (Read.entries Read.searchMacro))).map namedMacros
  | dataModels .., o =>
    (o.bind (·.readAs "data models" (Read.entries Read.dataModel))).map namedDataModels
  | updateMacro .., o | updateDataModel .., o | createPassword .., o => o.map fun _ => ()
  | passwords _ realm name, o =>
    (o.mapError (unknownPassword realm name)).bind fun r =>
      (r.readAs "credential" (Read.entries Read.storedPassword)).map namedPasswords
  | deletePassword _ realm name, o =>
    (o.map fun _ => ()).mapError (unknownPassword realm name)

/-- One exchange of a call with its endpoint. -/
def exchange (link : Link) (op : Operation) (shown : String) : Exchange op.Result :=
  ExceptT.mk (op.outcome <$>
    (Exchange.send link ⟨op.endpoint, op.method⟩ (op.draft link.baseUrl shown)).run)

end Operation

/-! ## A call is an exchange, made again where what was shown is refused -/

namespace Exchange
variable {ε α β : Type}

/-- A step, and then something made of its outcome. -/
theorem bind_eq_mk {x : ExceptT ε (StateM Wire) α} {f : α → ExceptT ε (StateM Wire) β}
    {g : α → Except ε β} (hf : ∀ a, (f a).run = (pure (g a) : StateM Wire _)) :
    x >>= f = ExceptT.mk ((·.bind g) <$> x.run) := by
  refine ExceptT.ext ?_
  rw [ExceptT.run_bind, ExceptT.run_mk, map_eq_pure_bind]
  refine bind_congr fun o => ?_
  cases o with
  | ok a => exact hf a
  | error e => rfl

theorem map_eq_mk (f : α → β) (x : ExceptT ε (StateM Wire) α) :
    f <$> x = ExceptT.mk ((·.map f) <$> x.run) := ExceptT.ext (ExceptT.run_map ..)

theorem discard_eq_mk (x : ExceptT ε (StateM Wire) α) :
    discard x = ExceptT.mk ((·.map fun _ => ()) <$> x.run) := map_eq_mk _ x

theorem mapFault_eq_mk (f : Fault → Fault) (x : Exchange α) :
    Client.mapFault f x = ExceptT.mk ((·.mapError f) <$> x.run) := by
  refine ExceptT.ext ?_
  rw [Client.mapFault, ExceptT.run_tryCatch, ExceptT.run_mk, map_eq_pure_bind]
  refine bind_congr fun o => ?_
  cases o <;> rfl

theorem parsed_run (what : String) (read : Json.Reader α) (r : Response) :
    (parsed what read r).run = (pure (r.readAs what read) : StateM Wire _) := by
  unfold parsed Response.readAs
  cases read.run r.body <;> rfl

theorem map_tryCatch (f : α → β) (x : Exchange α) (h : Fault → Exchange α) :
    f <$> tryCatch x h = tryCatch (f <$> x) fun e => f <$> h e := by
  refine ExceptT.ext ?_
  rw [ExceptT.run_map, ExceptT.run_tryCatch, ExceptT.run_tryCatch, ExceptT.run_map, map_bind,
    bind_map_left]
  refine bind_congr fun o => ?_
  cases o with
  | ok a => rfl
  | error e => exact (ExceptT.run_map ..).symm

end Exchange

namespace Client
variable {α β : Type}

theorem map_renewing (f : α → β) (link : Link) (call : String → Exchange α) :
    f <$> renewing link call = renewing link fun shown => f <$> call shown := by
  unfold renewing
  rw [map_bind]
  refine bind_congr fun shown => ?_
  rw [Exchange.map_tryCatch]
  refine congrArg (tryCatch _) (funext fun e => ?_)
  rw [map_bind]
  refine bind_congr fun w => ?_
  split
  · rw [map_bind]
    refine bind_congr fun _ => ?_
    rw [map_bind]
  · rfl

variable (link : Link)

theorem map_listing_eq (f : List (Entry α) → β) (endpoint address what : String)
    (query : List (String × String)) (content : Json.Reader α) :
    f <$> listing link endpoint address what query content = renewing link fun shown =>
      ExceptT.mk ((fun o => (o.bind (·.readAs what (Read.entries content))).map f) <$>
        (Exchange.send link ⟨endpoint, .get⟩
          ⟨.get, address, jsonMode :: query, some shown, []⟩).run) := by
  have hread := fun r => Exchange.parsed_run what (Read.entries content) r
  unfold listing
  rw [map_renewing]
  simp only [Exchange.bind_eq_mk hread, Exchange.map_eq_mk, ExceptT.run_mk, Functor.map_map]

theorem single_eq (endpoint what : String) (content : Json.Reader α) :
    single link endpoint what content = renewing link fun shown =>
      ExceptT.mk ((·.bind (·.firstAs what content)) <$>
        (Exchange.send link ⟨endpoint, .get⟩
          ⟨.get, link.baseUrl ++ endpoint, [jsonMode], some shown, []⟩).run) := by
  unfold single
  refine congrArg (renewing link) (funext fun shown => Exchange.bind_eq_mk fun r => ?_)
  rw [ExceptT.run_bind, Exchange.parsed_run, pure_bind]
  unfold Response.firstAs
  cases r.readAs what (Read.entries content) with
  | error e => rfl
  | ok es => cases es <;> rfl

theorem posting_eq (endpoint address : String) (form : List (String × String)) :
    posting link endpoint address form = renewing link fun shown =>
      ExceptT.mk ((·.map fun _ => ()) <$>
        (Exchange.send link ⟨endpoint, .post⟩
          ⟨.post, address, [jsonMode], some shown, form⟩).run) := by
  unfold posting
  simp only [Exchange.discard_eq_mk]

theorem passwords_eq (app realm name : String) :
    passwords link app realm name = renewing link fun shown =>
      ExceptT.mk ((fun o => (o.mapError (unknownPassword realm name)).bind fun r =>
          (r.readAs "credential" (Read.entries Read.storedPassword)).map namedPasswords) <$>
        (Exchange.send link ⟨passwordEndpoint, .get⟩ ⟨.get,
          passwordAddress link.baseUrl app realm name, [jsonMode], some shown, []⟩).run) := by
  have hread : ∀ r : Response, (namedPasswords <$>
      Exchange.parsed "credential" (Read.entries Read.storedPassword) r).run =
      (pure ((r.readAs "credential" (Read.entries Read.storedPassword)).map namedPasswords) :
        StateM Wire _) := by
    intro r
    rw [ExceptT.run_map, Exchange.parsed_run, map_pure]
  unfold passwords
  simp only [Exchange.bind_eq_mk hread, Exchange.mapFault_eq_mk, ExceptT.run_mk, Functor.map_map]

theorem deletePassword_eq (app realm name : String) :
    deletePassword link app realm name = renewing link fun shown =>
      ExceptT.mk ((fun o => (o.map fun _ => ()).mapError (unknownPassword realm name)) <$>
        (Exchange.send link ⟨passwordEndpoint, .delete⟩ ⟨.delete,
          passwordAddress link.baseUrl app realm name, [jsonMode], some shown, []⟩).run) := by
  unfold deletePassword
  simp only [Exchange.mapFault_eq_mk, Exchange.discard_eq_mk, ExceptT.run_mk, Functor.map_map]

end Client

namespace Operation
open Client

/-- A call is its exchange, made again where what was shown is refused. -/
theorem perform_eq (link : Link) (op : Operation) :
    op.perform link = renewing link (op.exchange link) := by
  cases op with
  | caller => exact single_eq link _ _ _
  | serverInfo => exact single_eq link _ _ _
  | indexes => exact map_listing_eq link namedIndexes _ _ _ _ _
  | tags => exact map_listing_eq link namedTags _ _ _ _ _
  | searchMacros owner app search => exact map_listing_eq link namedMacros _ _ _ _ _
  | dataModels owner app => exact map_listing_eq link namedDataModels _ _ _ _ _
  | updateMacro owner app name definition => exact posting_eq link _ _ _
  | updateDataModel owner app name params => exact posting_eq link _ _ _
  | createPassword app realm name password => exact posting_eq link _ _ _
  | passwords app realm name => exact passwords_eq link app realm name
  | deletePassword app realm name => exact deletePassword_eq link app realm name

end Operation

end AccelForm.Rest
