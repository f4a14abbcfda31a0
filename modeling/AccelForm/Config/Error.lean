/-
  Faults of a configuration

  Why no configuration could be put together, and what is said of it.
-/

namespace AccelForm.Config

/-- Why no configuration could be put together. -/
inductive ConfigError where
  | invalidValue (name problem : String)
  | missingBaseUrl
  | missingCredentials
  | noConfigDirectory (reason : String)
  | unreadableFile (path : String)
  | malformedFile (path : String)
  | profileNotFound (name : String)
  | invalidTimeout (problem : String)
  | invalidLifetime (problem : String)
  | invalidRetries (problem : String)
  | malformedDotenv (position : Nat)
  deriving DecidableEq, Repr

def ConfigError.message : ConfigError → String
  | .invalidValue name problem => "Invalid value for " ++ name ++ ": " ++ problem
  | .missingBaseUrl =>
    "No Splunk management URL. Set SPLUNK_BASE_URL, pass --base-url, or use a profile."
  | .missingCredentials =>
    "No credentials. Provide an API token, or both a username and a password."
  | .noConfigDirectory reason => "Cannot locate the configuration directory: " ++ reason
  | .unreadableFile path => "Cannot read config file " ++ path
  | .malformedFile path => "Config file " ++ path ++ " is not valid JSON"
  | .profileNotFound name => "Profile '" ++ name ++ "' does not exist in the config file"
  | .invalidTimeout problem => "Invalid timeout: " ++ problem
  | .invalidLifetime problem => "Invalid session TTL: " ++ problem
  | .invalidRetries problem => "Invalid max retries: " ++ problem
  | .malformedDotenv position =>
    ".env parse error at position " ++ toString position ++
      " (set DOTENV_DISABLED=1 to skip .env)"

end AccelForm.Config
