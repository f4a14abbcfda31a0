import AccelForm.Form.Save
/-
  Opening and saving the form

  A backend answers what the form asks: whether the caller has a capability,
  the release of the server, the four lists of assets, and the updates. To
  open the form the capability is checked first. A release that cannot be read
  counts as the newest. All four lists are read; the first of them that cannot
  be read is the reason why the form is not opened.
-/

namespace AccelForm

/-- What the form asks of the server, in a monad of the backend's own. -/
structure Backend (m : Type → Type) where
  hasCapability : String → m (Except Rest.Fault Bool)
  serverVersion : m (Except Rest.Fault String)
  searchMacros : m (Except Rest.Fault (List Rest.SearchMacro))
  indexes : m (Except Rest.Fault (List Rest.Index))
  dataModels : m (Except Rest.Fault (List Rest.DataModel))
  tags : m (Except Rest.Fault (List Rest.Tag))
  updateMacro : String → String → m UpdateResult
  updateDataModel : String → List (String × String) → m UpdateResult

namespace Form

def releaseOf : Except Rest.Fault String → Option Release
  | .ok version => some (.read version)
  | .error _ => none

/-- The assets, if all lists could be read. -/
def assetsOf (macros : Except Rest.Fault (List Rest.SearchMacro))
    (indexes : Except Rest.Fault (List Rest.Index))
    (models : Except Rest.Fault (List Rest.DataModel))
    (tags : Except Rest.Fault (List Rest.Tag)) : Except Rest.Fault Assets := do
  return ⟨← macros, ← indexes, ← models, ← tags⟩

/-- Reads the release and the assets and opens the form. -/
def loadAssets [Monad m] (b : Backend m) (displayLimit : Nat) : m (Except FormError Form) := do
  let release := releaseOf (← b.serverVersion)
  let macros ← b.searchMacros
  let indexes ← b.indexes
  let models ← b.dataModels
  let tags ← b.tags
  match assetsOf macros indexes models tags with
  | .ok assets => return .ok (ofAssets release displayLimit assets)
  | .error fault => return .error (.loadFailure fault)

/-- Opens the form for a caller who has the capability. -/
def load [Monad m] (b : Backend m) (capability : String) (displayLimit : Nat) :
    m (Except FormError Form) := do
  match ← b.hasCapability capability with
  | .error fault => return .error (.loadFailure fault)
  | .ok false => return .error (.permissionDenied capability)
  | .ok true => loadAssets b displayLimit

/-- Sends what the plan says, the whitelists first, and settles the form. -/
def save [Monad m] (b : Backend m) (f : Form) : m (SaveReport × Form) := do
  let whitelists ← f.plan.whitelists.mapM fun c => b.updateMacro c.macroName c.definition
  let settings ← f.plan.settings.mapM fun c => b.updateDataModel c.model c.params
  return f.settle whitelists settings

end Form

end AccelForm
