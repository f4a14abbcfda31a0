import AccelForm.Rest.Resource
import AccelForm.Rest.Fault
/-
  Stored keys

  A key is stored as a password under a realm and a name. The store refuses to
  create what exists, so a key that exists is deleted and created again. A key
  can be shown only if exactly one entry is found for it.
-/

namespace AccelForm

structure PasswordStore (m : Type → Type) where
  create : String → String → String → m (Except Rest.Fault Unit)
  lookup : String → String → m (Except Rest.Fault (List Rest.StoredPassword))
  delete : String → String → m (Except Rest.Fault Unit)

inductive KeyOutcome where
  | saved
  | updated
  | retrieved
  | deleted
  deriving DecidableEq, Repr

def KeyOutcome.message : KeyOutcome → String
  | .saved => "Successfully saved API Key!"
  | .updated => "Successfully updated API Key!"
  | .retrieved => "Successfully retrieved API Key!"
  | .deleted => "Successfully deleted API Key!"

inductive KeyError where
  | saveFailed (cause : Rest.Fault)
  | updateFailed (cause : Rest.Fault)
  | retrieveFailed (cause : Option Rest.Fault) (found : Nat)
  | deleteFailed (cause : Rest.Fault)
  deriving DecidableEq, Repr

namespace KeyError

def message : KeyError → String
  | .saveFailed _ => "Failed to save API Key!"
  | .updateFailed _ => "Failed to update API Key!"
  | .retrieveFailed _ _ => "Failed to retrieve API Key!"
  | .deleteFailed _ => "Failed to delete API Key!"

def cause? : KeyError → Option Rest.Fault
  | .saveFailed cause | .updateFailed cause | .deleteFailed cause => some cause
  | .retrieveFailed cause _ => cause

end KeyError

namespace ApiKey

/-- Whether a fault says that something exists already. -/
def isConflict : Rest.Fault → Bool
  | .conflict _ => true
  | _ => false

/-- Stores a key in place of the one that exists. A deletion that fails is passed over. -/
def replace [Monad m] (store : PasswordStore m) (realm name key : String) :
    m (Except KeyError KeyOutcome) := do
  let _ ← store.delete realm name
  match ← store.create realm name key with
  | .ok _ => return .ok .updated
  | .error fault => return .error (.updateFailed fault)

def save [Monad m] (store : PasswordStore m) (realm name key : String) :
    m (Except KeyError KeyOutcome) := do
  match ← store.create realm name key with
  | .ok _ => return .ok .saved
  | .error fault =>
    if isConflict fault then replace store realm name key
    else return .error (.saveFailed fault)

/-- The key that the entries found for it hold, if there is exactly one. -/
def ofEntries : List Rest.StoredPassword → Except KeyError String
  | [entry] => .ok entry.clearPassword
  | entries => .error (.retrieveFailed none entries.length)

def retrieve [Monad m] (store : PasswordStore m) (realm name : String) :
    m (Except KeyError String) := do
  match ← store.lookup realm name with
  | .ok entries => return ofEntries entries
  | .error fault => return .error (.retrieveFailed (some fault) 0)

def delete [Monad m] (store : PasswordStore m) (realm name : String) :
    m (Except KeyError KeyOutcome) := do
  match ← store.delete realm name with
  | .ok _ => return .ok .deleted
  | .error fault => return .error (.deleteFailed fault)

end ApiKey

end AccelForm
