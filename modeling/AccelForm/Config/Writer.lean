import AccelForm.Config.Basic
/-
  Writing configurations

  The records of a configuration as JSON values, with every setting in its
  place; a profile shows the settings that it does not have as null.
-/

namespace AccelForm

namespace Config

def Connection.toJson (c : Connection) : Json := .object [
  ("base_url", .string c.baseUrl),
  ("skip_verify", .bool c.skipVerify),
  ("timeout", .nat c.timeout.wholeSeconds),
  ("max_retries", .nat c.maxRetries),
  ("session_expiry_buffer_seconds", .nat c.renewalMargin),
  ("session_ttl_seconds", .nat c.sessionLifetime)]

def Target.toJson (t : Target) : Json := .object [
  ("app", .string t.app),
  ("owner", .string t.owner),
  ("realm", .string t.realm),
  ("capability", .string t.capability),
  ("max_display_count", .nat t.displayLimit)]

def Profile.toJson (p : Profile) : Json := .object [
  ("base_url", .ofOption .string p.baseUrl),
  ("username", .ofOption .string p.username),
  ("password", .ofOption .string p.password),
  ("api_token", .ofOption .string p.apiToken),
  ("skip_verify", .ofOption .bool p.skipVerify),
  ("timeout_seconds", .ofOption .nat p.timeoutSeconds),
  ("max_retries", .ofOption .nat p.maxRetries),
  ("session_ttl_seconds", .ofOption .nat p.sessionLifetime),
  ("app", .ofOption .string p.app),
  ("owner", .ofOption .string p.owner),
  ("realm", .ofOption .string p.realm),
  ("max_display_count", .ofOption .nat p.displayLimit)]

def Profiles.toJson (ps : Profiles) : Json :=
  .object [("profiles", .object (ps.map fun (name, p) => (name, p.toJson)))]

end Config

def Rest.Credentials.toJson : Rest.Credentials → Json
  | .login username password => .object [
      ("type", .string "session"), ("username", .string username), ("password", .string password)]
  | .token secret => .object [("type", .string "token"), ("token", .string secret)]

def Config.toJson (c : Config) : Json := .object [
  ("connection", c.connection.toJson),
  ("auth", c.credentials.toJson),
  ("setup", c.target.toJson)]

end AccelForm
