import AccelForm.Rest.Message
import AccelForm.Rest.Metric
import AccelForm.Rest.Session
import AccelForm.Url.Basic
/-
  Exchanges with the server

  A server answers a request from what it has been sent before. Its answer is
  what comes in the end, after redirections and within the time limit; how it
  comes about is left to the server here, and traced to the single hops in
  `Network`. Everything a caller can know of the past is on the wire: the
  requests that reached the server, the events that were recorded, the clock
  and the session. A request is sent again after a status that may pass, each
  time after a pause twice as long; any other outcome is final.
-/

namespace AccelForm.Rest

/-- What a request asks for. -/
inductive Method where
  | get
  | post
  | delete
  deriving DecidableEq, Repr

def Method.word : Method → String
  | .get => "GET"
  | .post => "POST"
  | .delete => "DELETE"

structure Request where
  method : Method
  url : Url
  authorization : Option String
  form : List (String × String)
  deriving DecidableEq, Repr

/-- What comes of a request in the end. It can be late, before or after it has reached a server;
it can be redirected too often; and it can be redirected to where it cannot be sent. -/
inductive Reply where
  | response (status : Nat) (requestId : Option String) (body : String)
  | dropped
  | unreachable
  | overdue (reached : Bool)
  | astray
  | barred (target : Url)
  deriving DecidableEq, Repr

def Reply.isReached : Reply → Bool
  | .unreachable => false
  | .overdue reached => reached
  | _ => true

/-- What comes of a request, how long it takes, and where the request was redirected to in the
end, if it was. -/
structure Answer where
  reply : Reply
  elapsed : Duration
  landed : Option Url
  deriving DecidableEq, Repr

/-- A server: its answer to a request, given the requests that it was sent before. -/
abbrev Server := List Request → Request → Answer

/-- The server that no request reaches. -/
def Server.unreachable : Server := fun _ _ => ⟨.unreachable, ⟨0⟩, none⟩

structure Link where
  baseUrl : String
  maxRetries : Nat
  lifetime : Duration
  margin : Duration
  metered : Bool
  server : Server

/-- What has happened so far. -/
structure Wire where
  sent : List Request
  events : List Event
  clock : Nat
  session : Session
  deriving Repr

/-- The wire before anything has happened. -/
def Wire.start (credentials : Credentials) : Wire := ⟨[], [], 0, .start credentials⟩

/-- A step that may fail and leaves its traces on the wire in any case. -/
abbrev Exchange := ExceptT Fault (StateM Wire)

/-- A request before its address is read. -/
structure Draft where
  method : Method
  address : String
  query : List (String × String)
  bearer : Option String
  form : List (String × String)

def isHeaderText (s : String) : Bool :=
  s.toList.all fun c => c == '\t' || (32 ≤ c.toNat && c.toNat ≠ 127)

def requestSchemes : List String := ["http", "https"]

namespace Draft

/-- The header that shows what the caller has to show. -/
def authorization (d : Draft) : Option String := d.bearer.map ("Bearer " ++ ·)

/-- The address of the request. -/
def url? (d : Draft) : Option Url :=
  match Url.Address.read d.address with
  | .ok (.web url) =>
    if requestSchemes.contains url.scheme then some (url.withoutUser.addQuery d.query) else none
  | _ => none

def request? (d : Draft) : Option Request :=
  if (d.authorization.elim true isHeaderText) then
    d.url?.map fun url => ⟨d.method, url, d.authorization, d.form⟩
  else none

end Draft

structure Response where
  status : Nat
  url : String
  requestId : Option String
  body : String
  deriving DecidableEq, Repr

namespace Response

/-- Whether the server did what it was asked for. -/
def isSuccess (r : Response) : Bool := 200 ≤ r.status && r.status ≤ 299

def isShown (id : String) : Bool :=
  id.toList.all fun c => c == '\t' || (32 ≤ c.toNat && c.toNat < 127)

/-- What the server said: its messages if there are any, else the body as it is. -/
def saying (r : Response) : String :=
  match Messages.read.run r.body with
  | some (m :: ms) => Messages.joined (m :: ms)
  | _ => r.body

def fault (r : Response) : Fault :=
  if r.status = 409 then .conflict r.saying
  else .refused r.status r.url r.saying (r.requestId.filter isShown)

end Response

namespace Answer

/-- Whether the request has reached a server, or one that redirected it. -/
def isReached (a : Answer) : Bool := a.landed.isSome || a.reply.isReached

/-- What an answer is to the one who sent the request. -/
def outcome (r : Request) (a : Answer) : Except Breakdown Response :=
  match a.reply with
  | .response status requestId body => .ok ⟨status, (a.landed.getD r.url).text, requestId, body⟩
  | .dropped => .error (.interrupted r.url.text)
  | .unreachable => .error (.unreachable r.url.text)
  | .overdue _ => .error (.overdue r.url.text)
  | .astray => .error (.astray (a.landed.getD r.url).text)
  | .barred target => .error (.barred target.text)

end Answer

/-- The endpoint and the method that events are recorded under. -/
structure Label where
  endpoint : String
  method : Method
  deriving DecidableEq, Repr

namespace Exchange

/-- Records what happened, if the link is metered. -/
def record (link : Link) (label : Label) (h : Happening) : Exchange Unit :=
  modify fun w =>
    if link.metered then { w with events := w.events ++ [⟨label.endpoint, label.method.word, h⟩] }
    else w

/-- Lets time pass. -/
def pause (d : Duration) : Exchange Unit := modify fun w => { w with clock := w.clock + d.nanos }

/-- Notes a request that reached the server. -/
def note (r : Request) : Exchange Unit := modify fun w => { w with sent := w.sent ++ [r] }

def noteIf (reached : Bool) (r : Request) : Exchange Unit := if reached then note r else return

/-- Ends an attempt that brought no response. -/
def breakOff (link : Link) (label : Label) (elapsed : Duration) (b : Breakdown) :
    Exchange Response := do
  record link label (.duration elapsed none)
  throw (.transport b)

/-- Notes the request, records how long it took, and makes the outcome of the answer. -/
def respond (link : Link) (label : Label) (r : Request) (answer : Answer) :
    Exchange Response := do
  pause answer.elapsed
  noteIf answer.isReached r
  match answer.outcome r with
  | .ok a =>
    record link label (.duration answer.elapsed (some a.status))
    return a
  | .error b => breakOff link label answer.elapsed b

/-- Hands a request to the server. -/
def deliver (link : Link) (label : Label) (r : Request) : Exchange Response := do
  respond link label r (link.server (← get).sent r)

def attempt (link : Link) (label : Label) (d : Draft) : Exchange Response := do
  record link label .request
  match d.request? with
  | some r => deliver link label r
  | none => breakOff link label ⟨0⟩ .unsendable

/-- The pause after a number of attempts. -/
def backoff (made : Nat) : Duration := .ofSeconds (Nat.pow 2 made)

/-- Makes attempts, `made` of them being made and `left` more being allowed after the next. -/
def attempts (link : Link) (label : Label) (d : Draft) (made : Nat) : Nat → Exchange Response
  | 0 => do
    let r ← attempt link label d
    if r.isSuccess then return r
    else if isTransientStatus r.status && 0 < made then throw (.retriesExceeded (made + 1))
    else throw r.fault
  | left + 1 => do
    let r ← attempt link label d
    if r.isSuccess then return r
    else if isTransientStatus r.status then
      record link label (.retry (made + 1))
      pause (backoff made)
      attempts link label d (made + 1) left
    else throw r.fault

/-- Sends a request until there is a final outcome. -/
def send (link : Link) (label : Label) (d : Draft) : Exchange Response :=
  tryCatch (attempts link label d 0 link.maxRetries) fun f => do
    record link label (.fault f.category)
    throw f

/-- Reads the body of a response; `what` names it. -/
def parsed (what : String) (read : Json.Reader α) (r : Response) : Exchange α :=
  match read.run r.body with
  | some a => return a
  | none => throw (.invalidResponse ("Failed to parse " ++ what ++
      " response: error decoding response body for url (" ++ r.url ++ ")"))

end Exchange

end AccelForm.Rest
