import AccelForm.Rest.Exchange
/-
  Redirections and the time limit

  A server can answer that a request is to be made elsewhere. It is then made
  there, a few times at most, before its answer is handed on, and all of this
  has to be over within the time limit. A network says what becomes of each
  single request on this way, of those too that follow a redirection; which
  method, header and form these have is left to it. `Network.server` is the
  server that a caller meets on a network, and `Network.trail` lists the single
  requests behind those that it was sent.

  What is below a single request is left out: names and certificates are no
  part of it, and a body comes in full or the request is dropped.
-/

namespace AccelForm.Rest

/-- What a single request meets; a redirection comes with the request that follows it. -/
inductive Echo where
  | response (status : Nat) (requestId : Option String) (body : String)
  | redirect (next : Request)
  | dropped
  | unreachable
  deriving DecidableEq, Repr

def Echo.isReached : Echo → Bool
  | .unreachable => false
  | _ => true

/-- A network: what a single request meets and after how long, given the single requests before. -/
abbrev Network := List Request → Request → Echo × Duration

/-- How many redirections of a request are followed. -/
def redirectLimit : Nat := 5

/-- The single requests that reach a server for one request, and what comes of it. -/
structure Passage where
  requests : List Request
  answer : Answer

namespace Network

/-- Makes a single request, and those that follow it as long as redirections are left and the time
is not up; `spent` nanoseconds of it are over. -/
def follow (net : Network) (limit : Duration) (left : Nat) (past : List Request)
    (landed : Option Url) (spent : Nat) (r : Request) : Passage :=
  let (echo, elapsed) := net past r
  let now := spent + elapsed.nanos
  let ending (reply : Reply) (nanos : Nat) : Passage :=
    ⟨if echo.isReached then [r] else [], ⟨reply, ⟨nanos⟩, landed⟩⟩
  if limit.nanos < now then ending (.overdue echo.isReached) limit.nanos
  else match echo with
    | .response status requestId body => ending (.response status requestId body) now
    | .dropped => ending .dropped now
    | .unreachable => ending .unreachable now
    | .redirect next =>
      match left with
      | 0 => ending .astray now
      | left + 1 =>
        if requestSchemes.contains next.url.scheme then
          let rest := follow net limit left (past ++ [r]) (some next.url) now next
          ⟨r :: rest.requests, rest.answer⟩
        else ending (.barred next.url) now

/-- What a request comes to on a network. -/
def pass (net : Network) (limit : Duration) (past : List Request) (r : Request) : Passage :=
  net.follow limit redirectLimit past none 0 r

/-- The single requests behind the requests that were made one after the other. -/
def trail (net : Network) (limit : Duration) (made : List Request) : List Request :=
  made.foldl (fun past r => past ++ (net.pass limit past r).requests) []

/-- The server that is met on a network, with redirections followed and within a time limit. -/
def server (net : Network) (limit : Duration) : Server := fun past r =>
  (net.pass limit (net.trail limit past) r).answer

end Network

end AccelForm.Rest
