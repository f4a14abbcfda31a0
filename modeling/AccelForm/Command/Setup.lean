import AccelForm.Command.Arguments
import AccelForm.Command.Failure
import AccelForm.Config.Loader
/-
  The configuration of a run

  The settings of the selected profile are at the bottom, those of the
  environment above them, and those of the command line on top. A blank path
  of the configuration file counts as none.
-/

namespace AccelForm

namespace Arguments

def layer (a : Arguments) : Config.Layer where
  baseUrl := a.baseUrl
  username := a.username
  password := a.password
  apiToken := a.apiToken
  skipVerify := if a.skipVerify then some true else none
  timeout := a.timeout.map .ofSeconds
  maxRetries := a.maxRetries
  app := a.app
  realm := a.realm

def givenPath (a : Arguments) : Option String := a.configPath.filter (!Text.isBlankText ·)

/-- A loader that knows the profile and where to look for it. -/
def loader (a : Arguments) (s : Config.Surroundings) : Config.Loader :=
  { Config.Loader.start s with path := a.givenPath, profileName := a.profile }

def config (a : Arguments) (s : Config.Surroundings) : Except Failure Config := do
  let profiled ← (a.loader s).loadProfile.mapError (.config .profile)
  let surrounded ← profiled.loadEnvironment.mapError (.config .environment)
  (surrounded.lay a.layer).build.mapError (.config .build)

end Arguments

end AccelForm
