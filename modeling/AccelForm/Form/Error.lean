import AccelForm.Acceleration.Setting
import AccelForm.Rest.Fault
/-
  Faults of the form

  The form cannot be opened without a capability or without its assets. An
  edit must name a data model and a setting that the form has; invalid values
  are not faults but are shown on the form.
-/

namespace AccelForm

/-- Why a step on the form was refused. -/
inductive FormError where
  | permissionDenied (capability : String)
  | loadFailure (cause : Rest.Fault)
  | unknownModel (model : String)
  | noWhitelist (model : String)
  | settingUnavailable (setting : Setting)
  | tagsUnavailable
  | unknownSetting (model name : String)
  deriving DecidableEq, Repr

namespace FormError

/-- The item that an edit names in vain. -/
def item? : FormError → Option String
  | .permissionDenied _ | .loadFailure _ => none
  | .unknownModel model => some ("data model '" ++ model ++ "'")
  | .noWhitelist model => some ("no whitelist macro for data model '" ++ model ++ "'")
  | .settingUnavailable s => some (s.label ++ " is not available on this Splunk version")
  | .tagsUnavailable => some "tags whitelist is not available on this Splunk version"
  | .unknownSetting model name => some (model ++ ": " ++ unknownSettingMessage name)

def message (e : FormError) : String :=
  match e, e.item? with
  | _, some item => "Unknown item: " ++ item
  | .permissionDenied _, none =>
    "You do not have permission to access this page. Please contact your Splunk administrator."
  | _, none => "An error occurred fetching assets. Please try again."

def cause? : FormError → Option Rest.Fault
  | .loadFailure cause => some cause
  | _ => none

end FormError

end AccelForm
