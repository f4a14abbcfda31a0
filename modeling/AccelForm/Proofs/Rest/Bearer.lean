import AccelForm.Proofs.Rest.Answers
/-
  What a call shows

  A session whose key counts for long shows it, and the wire stays as it is.
  Any other session without a fixed token is one that a login is needed for:
  the login fails and so does the call, or it brings the key that is shown and
  held from then on.
-/

namespace AccelForm.Rest

namespace Session
variable {s : Session} {now : Nat}

/-- Whether a login is needed before something is shown. -/
def needsLogin (s : Session) (now : Nat) : Bool := s.isExpired now || s.isDue now

theorem credentials_of_needsLogin (h : s.needsLogin now = true) :
    ∃ username password, s.credentials = .login username password := by
  unfold needsLogin isExpired isDue hasToken at h
  cases hc : s.credentials with
  | token token => simp [hc] at h
  | login username password => exact ⟨username, password, rfl⟩

theorem bearer?_of_not_needsLogin (h : s.needsLogin now = false) :
    ∃ shown, s.bearer? = some shown := by
  unfold needsLogin isExpired hasToken at h
  unfold bearer?
  cases hc : s.credentials with
  | token token => exact ⟨token, rfl⟩
  | login username password =>
    cases hk : s.key with
    | none => simp [hc, hk] at h
    | some key => exact ⟨key.value, rfl⟩

theorem bearer?_clear (h : s.hasToken = false) : s.clear.bearer? = none := by
  unfold hasToken at h
  unfold bearer? clear
  cases hc : s.credentials with
  | token token => simp [hc] at h
  | login username password => rfl

theorem bearer?_receive {username password key : String} {lifetime margin : Option Duration}
    (h : s.credentials = .login username password) :
    (s.receive now key lifetime margin).bearer? = some key := by
  unfold bearer? receive
  rw [h]
  rfl

theorem hasToken_of_login {username password : String}
    (h : s.credentials = .login username password) : s.hasToken = false := by
  unfold hasToken
  rw [h]

end Session

def Wire.receive (link : Link) (key : String) (w : Wire) : Wire :=
  { w with session := w.session.receive w.clock key (some link.lifetime) (some link.margin) }

namespace Client

section Bearer
variable {link : Link} {w w' : Wire} {username password : String}

/-- A login by itself leaves the session as it is; what it brings is received afterwards. -/
theorem session_of_logIn {result : Except Fault String}
    (hrun : (logIn link username password).run.run w = (result, w')) :
    w'.session = w.session := by
  obtain ⟨_, _, hsession, _⟩ := hears_logIn link username password w
  rwa [hrun] at hsession

/-- What counts for long is shown as it is. -/
theorem bearer_held {shown : String} (h : w.session.needsLogin w.clock = false)
    (hshown : w.session.bearer? = some shown) : (bearer link).run.run w = (.ok shown, w) := by
  unfold Session.needsLogin at h
  unfold bearer
  rw [Exchange.run_get_bind]
  dsimp only
  rw [h, if_neg Bool.false_ne_true, Exchange.run_get_bind, hshown]
  rfl

section Login
variable (h : w.session.needsLogin w.clock = true)
  (hlogin : w.session.credentials = .login username password)

include h hlogin

theorem bearer_refused {f : Fault}
    (hrun : (logIn link username password).run.run w = (.error f, w')) :
    (bearer link).run.run w = (.error f, w') := by
  unfold Session.needsLogin at h
  unfold bearer
  rw [Exchange.run_get_bind]
  dsimp only
  rw [if_pos h, hlogin]
  exact Exchange.run_bind_of_error hrun

/-- A login brings the key that is shown and held from then on. -/
theorem bearer_received {key : String}
    (hrun : (logIn link username password).run.run w = (.ok key, w')) :
    (bearer link).run.run w = (.ok key, w'.receive link key) := by
  have hkey : (w'.receive link key).session.bearer? = some key :=
    Session.bearer?_receive ((congrArg Session.credentials (session_of_logIn hrun)).trans hlogin)
  unfold Session.needsLogin at h
  unfold bearer
  rw [Exchange.run_get_bind]
  dsimp only
  rw [if_pos h, hlogin]
  dsimp only
  have hmodify : (modify fun w => { w with
      session := w.session.receive w.clock key (some link.lifetime) (some link.margin) } :
        Exchange Unit).run.run w' = (.ok (), w'.receive link key) := rfl
  rw [Exchange.run_bind_of_ok hrun, Exchange.run_bind_of_ok hmodify, Exchange.run_get_bind, hkey]
  rfl

end Login

end Bearer

end Client

end AccelForm.Rest
