import AccelForm.Duration
/-
  Faults of a call to the server

  A call fails in its transport, by the server's refusal, or because an answer
  is not what the call needs. Each fault has a text, and says whether it might
  pass, whether it is about the caller's identity, and which status it came
  with.
-/

namespace AccelForm.Rest

/-- How a request can end without a response. -/
inductive Breakdown where
  | unreachable (url : String)
  | interrupted (url : String)
  | overdue (url : String)
  | astray (url : String)
  | barred (url : String)
  | unsendable
  deriving DecidableEq, Repr

def Breakdown.message : Breakdown → String
  | .unreachable url | .interrupted url | .overdue url =>
    "error sending request for url (" ++ url ++ ")"
  | .astray url => "error following redirect for url (" ++ url ++ ")"
  | .barred url => "builder error for url (" ++ url ++ ")"
  | .unsendable => "builder error"

/-- Why a call failed. -/
inductive Fault where
  | authFailed (text : String)
  | transport (breakdown : Breakdown)
  | refused (status : Nat) (url message : String) (requestId : Option String)
  | conflict (text : String)
  | sessionExpired (username : String)
  | invalidResponse (text : String)
  | timeout (limit : Duration)
  | retriesExceeded (attempts : Nat)
  | invalidUrl (text : String)
  | notFound (text : String)
  deriving DecidableEq, Repr

/-- The note on a request that the server gave an identifier. -/
def requestNote : Option String → String
  | none => ""
  | some id => " [Request ID: " ++ id ++ "]"

namespace Fault

def message : Fault → String
  | .authFailed text => "Authentication failed: " ++ text
  | .transport b => "HTTP error: " ++ b.message
  | .refused status url text requestId =>
    "API error (" ++ toString status ++ ") at " ++ url ++ ": " ++ text ++ requestNote requestId
  | .conflict text => "Resource already exists: " ++ text
  | .sessionExpired username =>
    "Session expired for user '" ++ username ++ "', please re-authenticate"
  | .invalidResponse text => "Invalid response format: " ++ text
  | .timeout limit => "Request timed out after " ++ limit.text
  | .retriesExceeded attempts =>
    "Maximum retries exceeded (" ++ toString attempts ++ " attempts)"
  | .invalidUrl text => "Invalid URL: " ++ text
  | .notFound text => "Resource not found: " ++ text

/-- Whether the fault might pass. -/
def isTransient : Fault → Bool
  | .transport _ | .timeout _ => true
  | _ => false

def isAboutIdentity : Fault → Bool
  | .authFailed _ | .sessionExpired _ => true
  | .refused status _ _ _ => status == 401 || status == 403
  | _ => false

def status? : Fault → Option Nat
  | .refused status _ _ _ => some status
  | .conflict _ => some 409
  | .notFound _ => some 404
  | _ => none

end Fault

/-- The statuses that a later attempt may not meet again. -/
def transientStatuses : List Nat := [429, 502, 503, 504]

/-- Whether a status asks for another attempt. -/
def isTransientStatus (status : Nat) : Bool := transientStatuses.contains status

end AccelForm.Rest
