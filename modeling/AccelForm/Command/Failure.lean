import AccelForm.Command.ExitCode
import AccelForm.Config.Error
import AccelForm.Display.Format
/-
  Failures of a run

  A run fails with a chain of causes, the outermost first, and tells them in
  one line. A cause that is not put into words by this program, but by a
  reader of JSON or by the transport, is not told, and then only the outermost
  one is.
-/

namespace AccelForm

/-- The steps in which a configuration is put together. -/
inductive ConfigStep where
  | profile
  | environment
  | build
  deriving DecidableEq, Repr

def ConfigStep.message : ConfigStep → String
  | .profile => "Failed to load configuration from profile"
  | .environment => "Failed to load configuration from environment"
  | .build => "Failed to build configuration"

inductive Failure where
  | config (step : ConfigStep) (cause : Config.ConfigError)
  | unknownFormat (word : String)
  | unreadableEdits (path reason : String)
  | malformedEdits (path : String)
  | fault (cause : Rest.Fault)
  | form (cause : FormError)
  | key (cause : KeyError)
  | unsaved (failed total : Nat)
  deriving DecidableEq, Repr

namespace Failure

def fault? : Failure → Option Rest.Fault
  | .fault cause => some cause
  | .form cause => cause.cause?
  | .key cause => cause.cause?
  | _ => none

def outermost : Failure → String
  | .config step _ => step.message
  | .unknownFormat word => Format.unknownMessage word
  | .unreadableEdits path _ => "Failed to read edit file " ++ path
  | .malformedEdits path => "Failed to parse edit file " ++ path
  | .fault cause => cause.message
  | .form cause => cause.message
  | .key cause => cause.message
  | .unsaved failed total =>
    toString failed ++ " of " ++ toString total ++ " change(s) were not saved"

/-- The causes behind the first one. -/
def inner : Failure → List String
  | .config _ cause => [cause.message]
  | .unreadableEdits _ reason => [reason]
  | .form cause => (cause.cause?.map Rest.Fault.message).toList
  | .key cause => (cause.cause?.map Rest.Fault.message).toList
  | _ => []

def isTransport : Rest.Fault → Bool
  | .transport _ => true
  | _ => false

/-- Whether a cause is in words that are not the program's own. -/
def isForeign (f : Failure) : Bool :=
  match f with
  | .malformedEdits _ => true
  | _ => f.fault?.elim false isTransport

def message (f : Failure) : String :=
  if f.isForeign then f.outermost else ": ".intercalate (f.outermost :: f.inner)

def exitCode : Failure → ExitCode
  | .fault cause => .ofFault cause
  | .form cause => .ofFormError cause
  | .key cause => .ofKeyError cause
  | .unsaved _ _ => .validation
  | _ => .general

end Failure

end AccelForm
