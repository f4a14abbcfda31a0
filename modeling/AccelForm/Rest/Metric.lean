import AccelForm.Rest.Fault
/-
  Metrics of calls

  Every attempt, its duration, every retry and every failed call is an event
  of an endpoint and a method. An event has the name of its metric and labels
  in a fixed order.
-/

namespace AccelForm.Rest

/-- The kinds of faults that are counted. -/
inductive FaultCategory where
  | transport
  | client
  | server
  | answer
  | timeout
  | unknown
  deriving DecidableEq, Repr

namespace FaultCategory

def label : FaultCategory → String
  | .transport => "transport"
  | .client => "http_4xx"
  | .server => "http_5xx"
  | .answer => "api"
  | .timeout => "timeout"
  | .unknown => "unknown"

def ofStatus (status : Nat) : FaultCategory :=
  if 400 ≤ status && status ≤ 499 then .client
  else if 500 ≤ status && status ≤ 599 then .server
  else .answer

end FaultCategory

def Fault.category : Fault → FaultCategory
  | .timeout _ => .timeout
  | .conflict _ | .notFound _ => .client
  | .refused status _ _ _ => .ofStatus status
  | .invalidResponse _ => .answer
  | .transport (.overdue _) => .timeout
  | .transport (.unreachable _) => .transport
  | _ => .unknown

inductive Happening where
  | request
  | duration (elapsed : Duration) (status : Option Nat)
  | retry (attempt : Nat)
  | fault (category : FaultCategory)
  deriving DecidableEq, Repr

/-- What happened at an endpoint; endpoint and method are as in the labels. -/
structure Event where
  endpoint : String
  method : String
  happening : Happening
  deriving DecidableEq, Repr

namespace Event

def metric (e : Event) : String :=
  match e.happening with
  | .request => "cim_setup_api_requests_total"
  | .duration _ _ => "cim_setup_api_request_duration_seconds"
  | .retry _ => "cim_setup_api_retries_total"
  | .fault _ => "cim_setup_api_errors_total"

/-- The label that only events of this kind have. -/
def ownLabels : Happening → List (String × String)
  | .request => []
  | .duration _ status => [("status", status.elim "error" toString)]
  | .retry attempt => [("attempt", toString attempt)]
  | .fault category => [("error_category", category.label)]

def labels (e : Event) : List (String × String) :=
  [("endpoint", e.endpoint), ("method", e.method)] ++ ownLabels e.happening

end Event

end AccelForm.Rest
