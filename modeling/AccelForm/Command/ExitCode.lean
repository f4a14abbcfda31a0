import AccelForm.ApiKey
import AccelForm.Form.Error
/-
  Exit codes

  The exit code of a run tells scripts what kind of fault ended it. A fault of
  the form or of a stored key has the code of the fault behind it.
-/

namespace AccelForm

inductive ExitCode where
  | success
  | general
  | authentication
  | connection
  | notFound
  | validation
  | permission
  | rateLimited
  | unavailable
  deriving DecidableEq, Repr

namespace ExitCode

def number : ExitCode → Nat
  | .success => 0
  | .general => 1
  | .authentication => 2
  | .connection => 3
  | .notFound => 4
  | .validation => 5
  | .permission => 6
  | .rateLimited => 7
  | .unavailable => 8

def ofStatus (status : Nat) : ExitCode :=
  if status = 401 then .authentication
  else if status = 404 then .notFound
  else if status = 400 then .validation
  else if status = 403 then .permission
  else if status = 429 then .rateLimited
  else if 502 ≤ status && status ≤ 504 then .unavailable
  else .general

def ofFault : Rest.Fault → ExitCode
  | .authFailed _ | .sessionExpired _ => .authentication
  | .timeout _ | .invalidUrl _ => .connection
  | .transport (.unreachable _) | .transport (.overdue _) => .connection
  | .transport _ => .general
  | .notFound _ => .notFound
  | .invalidResponse _ => .validation
  | .refused status _ _ _ => .ofStatus status
  | .retriesExceeded _ => .unavailable
  | .conflict _ => .general

def ofFormError : FormError → ExitCode
  | .permissionDenied _ => .permission
  | .loadFailure fault => .ofFault fault
  | _ => .validation

def ofKeyError (e : KeyError) : ExitCode := e.cause?.elim .notFound .ofFault

end ExitCode

end AccelForm
