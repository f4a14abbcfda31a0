import AccelForm.Duration
/-
  Sessions with the server

  A caller shows either a fixed token, or a session key that a login with a
  user name and a password has brought. A session key may have a moment at
  which it expires; it is due for renewal a little earlier. Moments are counted
  in nanoseconds.
-/

namespace AccelForm.Rest

/-- How a caller proves who they are. -/
inductive Credentials where
  | token (token : String)
  | login (username password : String)
  deriving DecidableEq, Repr

/-- A key that a login has brought. -/
structure SessionKey where
  value : String
  expiresAt : Option Nat
  margin : Duration
  deriving DecidableEq, Repr

namespace SessionKey

/-- Whether the key no longer counts at a moment. -/
def isExpired (k : SessionKey) (now : Nat) : Bool :=
  match k.expiresAt with
  | none => false
  | some moment => moment ≤ now

def isDue (k : SessionKey) (now : Nat) : Bool :=
  match k.expiresAt with
  | none => false
  | some moment => moment - now < k.margin.nanos

end SessionKey

/-- The credentials of a caller and the key they have brought. -/
structure Session where
  credentials : Credentials
  key : Option SessionKey
  deriving DecidableEq, Repr

namespace Session

/-- A session that has no key yet. -/
def start (credentials : Credentials) : Session := ⟨credentials, none⟩

/-- Whether the caller shows a fixed token. -/
def hasToken (s : Session) : Bool :=
  match s.credentials with
  | .token _ => true
  | .login _ _ => false

def principal (s : Session) : String :=
  match s.credentials with
  | .token _ => "api-token"
  | .login username _ => username

/-- What the caller shows, if they have anything to show. -/
def bearer? (s : Session) : Option String :=
  match s.credentials with
  | .token token => some token
  | .login _ _ => s.key.map (·.value)

/-- Whether there is no key that counts; a token always counts. -/
def isExpired (s : Session) (now : Nat) : Bool :=
  !s.hasToken && s.key.elim true (·.isExpired now)

/-- Whether there is no key that counts for long; a token always does. -/
def isDue (s : Session) (now : Nat) : Bool :=
  !s.hasToken && s.key.elim true (·.isDue now)

/-- The margin of a key for which none is given. -/
def defaultMargin : Duration := .ofSeconds 60

def receive (s : Session) (now : Nat) (value : String) (lifetime margin : Option Duration) :
    Session :=
  { s with key := some ⟨value, lifetime.map (now + ·.nanos), margin.getD defaultMargin⟩ }

/-- The session without its key. -/
def clear (s : Session) : Session := { s with key := none }

end Session

end AccelForm.Rest
