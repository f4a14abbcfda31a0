import AccelForm.Config.Error
import AccelForm.Text.Blank
import AccelForm.Url.Basic
/-
  Base addresses

  The base address of the server is an address of the web with the scheme http
  or https, in its normal spelling and without slashes at its end.
-/

namespace AccelForm.Config

def dropSlashes (s : String) : String :=
  String.ofList (Text.dropEnd (· == '/') s.toList)

def baseSchemes : List String := ["http", "https"]

/-- A base address that cannot be used. -/
def invalidBaseUrl (problem : String) : ConfigError := .invalidValue "base_url" problem

/-- The scheme of an address, and its text if it is one of the web. -/
def addressParts : Url.Address → String × Option String
  | .web url => (url.scheme, some url.text)
  | .other scheme => (scheme, none)

/-- Brings a base address into its normal spelling. -/
def normalBaseUrl (raw : String) : Except ConfigError String :=
  let trimmed := Text.trim raw
  if trimmed = "" then .error .missingBaseUrl else
  match Url.Address.read trimmed with
  | .error e =>
    .error (invalidBaseUrl ("expected e.g. https://localhost:8089: " ++ e.message))
  | .ok address =>
    match addressParts address with
    | (scheme, some text) =>
      if baseSchemes.contains scheme then .ok (dropSlashes text)
      else .error (invalidBaseUrl ("scheme must be http or https, got: " ++ scheme))
    | (scheme, none) =>
      .error (invalidBaseUrl ("scheme must be http or https, got: " ++ scheme))

end AccelForm.Config
