import AccelForm.Proofs.Rest.Operation
import AccelForm.Proofs.Rest.Trace
import AccelForm.Text.Blank
import Mathlib.Data.List.Forall2
/-
  Requests that differ in secrets only

  Two runs have secrets of their own: credentials, and a key to be stored. A
  request of the one swaps for a request of the other (`Secrets.Swaps`) if
  each shows what its run shows and nothing else differs: a fixed token is
  swapped for the other token, a password in a login for the other password,
  a key to be stored for the other key. Session keys come from the server and
  are the same. A secret decides nothing but whether a header can hold it.
-/

namespace AccelForm

/-- Whether two results are the same failure, or values that are related. -/
inductive Results {ε α : Type} (R : α → α → Prop) : Except ε α → Except ε α → Prop
  | ok {a a' : α} (h : R a a') : Results R (.ok a) (.ok a')
  | error (e : ε) : Results R (.error e) (.error e)

namespace Results
variable {ε ε' α β : Type} {R : α → α → Prop} {Q : β → β → Prop} {x x' : Except ε α}

theorem bind {f f' : α → Except ε β} (hx : Results R x x')
    (hf : ∀ a a', R a a' → Results Q (f a) (f' a')) : Results Q (x.bind f) (x'.bind f') := by
  cases hx with
  | ok h => exact hf _ _ h
  | error e => exact .error e

/-- What follows the same result. -/
theorem bindSame (x : Except ε α) {f f' : α → Except ε β} (hf : ∀ a, Results Q (f a) (f' a)) :
    Results Q (x >>= f) (x >>= f') := by
  cases x with
  | ok a => exact hf a
  | error e => exact .error e

theorem map {f f' : α → β} (hx : Results R x x') (hf : ∀ a a', R a a' → Q (f a) (f' a')) :
    Results Q (x.map f) (x'.map f') := by
  cases hx with
  | ok h => exact .ok (hf _ _ h)
  | error e => exact .error e

theorem mapError (f : ε → ε') (hx : Results R x x') :
    Results R (x.mapError f) (x'.mapError f) := by
  cases hx with
  | ok h => exact .ok h
  | error e => exact .error (f e)

end Results

end AccelForm

namespace AccelForm.Rest

/-- Whether a text can be a secret that is shown: it is not blank, and a header can hold it. -/
def IsShowable (s : String) : Prop := Text.isBlankText s = false ∧ isHeaderText s = true

/-- Whether two texts are secrets that can take each other's place. -/
def Swapped (s s' : String) : Prop := s' = s ∨ (IsShowable s ∧ IsShowable s')

/-- Whether two credentials differ in the secret only. -/
inductive Credentials.Swapped : Credentials → Credentials → Prop
  | token {token token' : String} (h : Rest.Swapped token token') :
      Swapped (.token token) (.token token')
  | login {username password password' : String} :
      Swapped (.login username password) (.login username password')

theorem Credentials.Swapped.cases {c c' : Credentials} (h : c.Swapped c') :
    (∃ token token', c = .token token ∧ c' = .token token' ∧ Rest.Swapped token token') ∨
    ∃ username password password', c = .login username password ∧
      c' = .login username password' := by
  cases h with
  | token h => exact .inl ⟨_, _, rfl, rfl, h⟩
  | login => exact .inr ⟨_, _, _, rfl, rfl⟩

theorem isHeaderText_bearer (s : String) : isHeaderText ("Bearer " ++ s) = isHeaderText s := by
  unfold isHeaderText
  rw [String.toList_append, List.all_append]
  have hscheme : ("Bearer ".toList.all fun c => c == '\t' || (32 ≤ c.toNat && c.toNat ≠ 127)) =
      true := by decide
  rw [hscheme, Bool.true_and]

theorem Swapped.isHeaderText_eq {s s' : String} (h : Swapped s s') :
    isHeaderText s' = isHeaderText s := by
  rcases h with rfl | ⟨h, h'⟩
  · rfl
  · rw [h.2, h'.2]

/-- The secrets of two runs: their credentials, and the keys that they are to store, if any. -/
structure Secrets where
  own : Credentials
  other : Credentials
  keys : Option (String × String)

namespace Secrets
variable (p : Secrets)

/-- Whether the two runs show two texts: their tokens, or the same session key. -/
inductive Shown : String → String → Prop
  | token {token token' : String} (hown : p.own = .token token) (hother : p.other = .token token') :
      Shown token token'
  | key {username password key : String} (hown : p.own = .login username password) :
      Shown key key

/-- Whether the two runs post two forms: the same one, or each its key. -/
inductive Posted : List (String × String) → List (String × String) → Prop
  | same (form : List (String × String)) : Posted form form
  | key {name realm key key' : String} (h : p.keys = some (key, key')) :
      Posted [("name", name), ("password", key), ("realm", realm)]
        [("name", name), ("password", key'), ("realm", realm)]

/-- Whether two requests differ in the secrets only: two logins, or two other requests. -/
inductive Swaps : Request → Request → Prop
  | login {url : Url} {username password password' : String}
      (hown : p.own = .login username password) (hother : p.other = .login username password') :
      Swaps ⟨.post, url, none, [("username", username), ("password", password)]⟩
        ⟨.post, url, none, [("username", username), ("password", password')]⟩
  | call {method : Method} {url : Url} {shown shown' : String} {form form' : List (String × String)}
      (hshown : p.Shown shown shown') (hform : p.Posted form form') :
      Swaps ⟨method, url, some ("Bearer " ++ shown), form⟩
        ⟨method, url, some ("Bearer " ++ shown'), form'⟩

/-- Whether two servers give the same replies to requests that differ in the secrets only. -/
def SameReplies (server server' : Server) : Prop :=
  ∀ past past' r r', List.Forall₂ p.Swaps past past' → p.Swaps r r' →
    server' past' r' = server past r

variable {p}

theorem Swaps.url_eq {r r' : Request} (h : p.Swaps r r') : r'.url = r.url := by
  cases h <;> rfl

theorem Shown.isHeaderText_eq (hp : p.own.Swapped p.other) {shown shown' : String}
    (h : p.Shown shown shown') : isHeaderText shown' = isHeaderText shown := by
  cases h with
  | key hown => rfl
  | token hown hother =>
    rw [hown, hother] at hp
    cases hp with
    | token h => exact h.isHeaderText_eq

/-- Both runs can send a login, or neither can. -/
theorem swaps_login {username password password' : String}
    (hown : p.own = .login username password) (hother : p.other = .login username password')
    (base : String) : Option.Rel p.Swaps (Draft.login base username password).request?
      (Draft.login base username password').request? := by
  show Option.Rel p.Swaps ((Draft.login base username password).url?.map _)
    ((Draft.login base username password).url?.map _)
  cases (Draft.login base username password).url? with
  | none => exact .none
  | some url => exact .some (.login hown hother)

/-- Both runs can send a call, or neither can. -/
theorem swaps_call (hp : p.own.Swapped p.other) (method : Method) (address : String)
    (query : List (String × String)) {shown shown' : String} {form form' : List (String × String)}
    (hshown : p.Shown shown shown') (hform : p.Posted form form') :
    Option.Rel p.Swaps (Draft.request? ⟨method, address, query, some shown, form⟩)
      (Draft.request? ⟨method, address, query, some shown', form'⟩) := by
  have hheader : isHeaderText ("Bearer " ++ shown') = isHeaderText ("Bearer " ++ shown) := by
    rw [isHeaderText_bearer, isHeaderText_bearer, hshown.isHeaderText_eq hp]
  unfold Draft.request?
  show Option.Rel p.Swaps (if isHeaderText ("Bearer " ++ shown) = true then _ else _)
    (if isHeaderText ("Bearer " ++ shown') = true then _ else _)
  rw [hheader]
  split
  · show Option.Rel p.Swaps (Option.map _ (Draft.url? ⟨method, address, query, some shown, form⟩))
      (Option.map _ (Draft.url? ⟨method, address, query, some shown, form⟩))
    cases Draft.url? ⟨method, address, query, some shown, form⟩ with
    | none => exact .none
    | some url => exact .some (.call hshown hform)
  · exact .none

end Secrets

end AccelForm.Rest
