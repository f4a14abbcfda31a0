import AccelForm.ApiKey
import AccelForm.Config.Basic
import AccelForm.Form.Backend
import AccelForm.Rest.Client
import AccelForm.Rest.Network
/-
  The form of a server

  The form and the stored keys of a target are served by calls to the server:
  the search macros, the data models and the passwords are those of the
  target's owner and app. Of the search macros only those are asked for that
  can hold a whitelist.

  On a network, the timeout of a connection is the limit for a request with all
  that follows it; whether certificates are checked is below what is modelled.
-/

namespace AccelForm

open Rest (Link Wire)

/-- How a server is called with a connection. -/
def Config.Connection.link (c : Config.Connection) (server : Rest.Server) : Link where
  baseUrl := Rest.Client.baseAddress c.baseUrl
  maxRetries := c.maxRetries
  lifetime := .ofSeconds c.sessionLifetime
  margin := .ofSeconds c.renewalMargin
  metered := true
  server := server

/-- How a network is called with a connection. -/
def Config.Connection.over (c : Config.Connection) (net : Rest.Network) : Link :=
  c.link (net.server c.timeout)

/-- The backend of a target on a server. -/
def Backend.remote (link : Link) (t : Config.Target) : Backend (StateM Wire) where
  hasCapability capability := ((·.hasCapability capability) <$> Rest.Client.caller link).run
  serverVersion := ((·.version) <$> Rest.Client.serverInfo link).run
  searchMacros :=
    (Rest.Client.searchMacros link t.owner t.app (some Whitelist.searchFilter)).run
  indexes := (Rest.Client.indexes link).run
  dataModels := (Rest.Client.dataModels link t.owner t.app).run
  tags := (Rest.Client.tags link).run
  updateMacro name definition :=
    (Rest.Client.updateMacro link t.owner t.app name definition).run
  updateDataModel name params :=
    (Rest.Client.updateDataModel link t.owner t.app name params).run

/-- The passwords of a target on a server. -/
def PasswordStore.remote (link : Link) (t : Config.Target) : PasswordStore (StateM Wire) where
  create realm name key := (Rest.Client.createPassword link t.app realm name key).run
  lookup realm name := (Rest.Client.passwords link t.app realm name).run
  delete realm name := (Rest.Client.deletePassword link t.app realm name).run

end AccelForm
