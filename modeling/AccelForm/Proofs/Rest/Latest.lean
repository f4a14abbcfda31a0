import AccelForm.Proofs.Rest.LogIn
import AccelForm.Proofs.Rest.Tenure
import Mathlib.Data.List.DropRight
/-
  Which key is shown

  A caller makes calls, logs in, forgets the session key and waits, in any
  order and as often as they like. Each of these comes down to four deeds
  (`Errand.deeds`), none of which loses track of what was heard: the key that
  is held is that of the latest login that brought one since the key was last
  forgotten (`Deed.holds_runAll`). So a caller who asks what to show gets the
  fixed token, or that key, or the fault of the login that was needed
  (`bearer_exact`).
-/

namespace AccelForm.Rest

open Client

/-! ## Deeds -/

/-- What happens to a wire, with nothing else happening meanwhile. -/
inductive Deed where
  | ask
  | exchange (op : Operation) (shown : String)
  | forget
  | wait (time : Duration)

namespace Deed

def run (link : Link) (w : Wire) : Deed → Wire
  | ask => ((bearer link).run.run w).2
  | exchange op shown => ((op.exchange link shown).run.run w).2
  | forget => (Client.forget.run.run w).2
  | wait time => w.idle time

def runAll (link : Link) (deeds : List Deed) (w : Wire) : Wire := deeds.foldl (run link) w

def isForget : Deed → Bool
  | forget => true
  | _ => false

/-- The deeds up to the last one that forgets the key, and none if there is no such deed. -/
def untilForgotten (deeds : List Deed) : List Deed := deeds.rdropWhile (!·.isForget)

theorem runAll_append (link : Link) (deeds deeds' : List Deed) (w : Wire) :
    runAll link (deeds ++ deeds') w = runAll link deeds' (runAll link deeds w) :=
  List.foldl_append

theorem runAll_concat (link : Link) (deeds : List Deed) (deed : Deed) (w : Wire) :
    runAll link (deeds ++ [deed]) w = run link (runAll link deeds w) deed :=
  runAll_append link deeds [deed] w

/-- Asking for what is shown, and making the exchange of a call with it. -/
def round (link : Link) (op : Operation) (w : Wire) : List Deed :=
  match ((bearer link).run.run w).1 with
  | .ok shown => [ask, exchange op shown]
  | .error _ => [ask]

end Deed

/-! ## What a caller does -/

/-- What a caller can do. -/
inductive Errand where
  | call (op : Operation)
  | logIn
  | forget
  | wait (time : Duration)

namespace Errand

/-- The wire after a caller has done something. -/
def run (link : Link) (w : Wire) : Errand → Wire
  | call op => ((op.perform link).run.run w).2
  | logIn => ((logInAnew link).run.run w).2
  | forget => (Client.forget.run.run w).2
  | wait time => w.idle time

/-- The wire after a caller has done things one after the other. -/
def runAll (link : Link) (errands : List Errand) (w : Wire) : Wire := errands.foldl (run link) w

/-- Whether the first exchange of a call leads to a second one. -/
def isRepeated (link : Link) (op : Operation) (w : Wire) : Bool :=
  match (bearer link).run.run w with
  | (.error _, _) => false
  | (.ok shown, w') =>
    match (op.exchange link shown).run.run w' with
    | (.error f, w'') => isRefusal f && !w''.session.hasToken
    | (.ok _, _) => false

def deeds (link : Link) (w : Wire) : Errand → List Deed
  | call op =>
    let first := Deed.round link op w ++ [.forget]
    if isRepeated link op w then first ++ Deed.round link op (Deed.runAll link first w)
    else Deed.round link op w
  | logIn => if w.session.hasToken then [] else [.forget, .ask]
  | forget => [.forget]
  | wait time => [.wait time]

/-- The deeds of a caller one after the other. -/
def allDeeds (link : Link) : List Errand → Wire → List Deed
  | [], _ => []
  | errand :: errands, w => errand.deeds link w ++ allDeeds link errands (errand.run link w)

variable (link : Link) (w : Wire)

theorem isRepeated_of_shown {op : Operation} {shown : String} {w' : Wire}
    (h : (bearer link).run.run w = (.ok shown, w')) : isRepeated link op w =
      match (op.exchange link shown).run.run w' with
      | (.error f, w'') => isRefusal f && !w''.session.hasToken
      | (.ok _, _) => false := by
  unfold isRepeated
  rw [h]

theorem run_round (op : Operation) : Deed.runAll link (Deed.round link op w) w =
    ((bearer link >>= op.exchange link).run.run w).2 := by
  unfold Deed.round
  rcases hbearer : (bearer link).run.run w with ⟨f | shown, w'⟩
  · rw [Exchange.run_bind_of_error hbearer]
    show ((bearer link).run.run w).2 = w'
    rw [hbearer]
  · rw [Exchange.run_bind_of_ok hbearer]
    show ((op.exchange link shown).run.run ((bearer link).run.run w).2).2 = _
    rw [hbearer]

/-- A call is a round, and another one with a new key where the first is refused. -/
theorem run_call (op : Operation) :
    Deed.runAll link ((call op).deeds link w) w = (call op).run link w := by
  have hround := run_round link w op
  show Deed.runAll link (if isRepeated link op w then _ else _) w = ((op.perform link).run.run w).2
  rw [op.perform_eq]
  unfold renewing
  rcases hbearer : (bearer link).run.run w with ⟨f | shown, w'⟩
  · have hrepeated : isRepeated link op w = false := by
      unfold isRepeated
      rw [hbearer]
    rw [Exchange.run_bind_of_error hbearer] at hround ⊢
    rw [hrepeated]
    exact hround
  · rw [Exchange.run_bind_of_ok hbearer] at hround ⊢
    rcases hexchange : (op.exchange link shown).run.run w' with ⟨f | a, w''⟩
    · have hrepeated : isRepeated link op w = (isRefusal f && !w''.session.hasToken) := by
        rw [isRepeated_of_shown link w hbearer, hexchange]
      rw [hexchange] at hround
      rw [Exchange.run_tryCatch_of_error hexchange, Exchange.run_get_bind, hrepeated]
      cases isRefusal f && !w''.session.hasToken with
      | true =>
        -- refused: the second round goes on from where the key was forgotten
        have hforget : Client.forget.run.run w'' = (.ok (), (Client.forget.run.run w'').2) := rfl
        rw [if_pos rfl, if_pos rfl, Deed.runAll_append, Deed.runAll_concat, hround, run_round,
          Exchange.run_bind_of_ok hforget]
        rfl
      | false => exact hround
    · have hrepeated : isRepeated link op w = false := by
        rw [isRepeated_of_shown link w hbearer, hexchange]
      rw [hexchange] at hround
      rw [Exchange.run_tryCatch_of_ok hexchange, hrepeated]
      exact hround

theorem run_logInAnew : Deed.runAll link (logIn.deeds link w) w = logIn.run link w := by
  show Deed.runAll link (if _ then _ else _) w = ((logInAnew link).run.run w).2
  unfold logInAnew
  rw [Exchange.run_get_bind]
  split
  · rfl
  · have hforget : Client.forget.run.run w = (.ok (), (Client.forget.run.run w).2) := rfl
    rw [Exchange.run_bind_of_ok hforget]
    show ((bearer link).run.run _).2 = _
    rw [Exchange.discard_eq_mk]
    rfl

theorem run_deeds (errand : Errand) :
    Deed.runAll link (errand.deeds link w) w = errand.run link w := by
  cases errand with
  | call op => exact run_call link w op
  | logIn => exact run_logInAnew link w
  | forget => rfl
  | wait time => rfl

theorem run_allDeeds (errands : List Errand) :
    Deed.runAll link (allDeeds link errands w) w = runAll link errands w := by
  induction errands generalizing w with
  | nil => rfl
  | cons errand errands ih =>
    rw [allDeeds, Deed.runAll_append, run_deeds, ih]
    rfl

end Errand

/-! ## What is shown -/

/-- How a caller who asks what to show comes by it: it is there, or a login fails or brings it. -/
inductive Asked (link : Link) (w : Wire) : Except Fault String × Wire → Prop
  | held {shown : String} (hshown : w.session.bearer? = some shown) :
    Asked link w (.ok shown, w)
  | refused {username password : String} {f : Fault} {w' : Wire}
    (hlogin : w.session.credentials = .login username password)
    (hrun : (logIn link username password).run.run w = (.error f, w')) :
    Asked link w (.error f, w')
  | received {username password key : String} {w' : Wire}
    (hlogin : w.session.credentials = .login username password)
    (hrun : (logIn link username password).run.run w = (.ok key, w')) :
    Asked link w (.ok key, w'.receive link key)

theorem asked_bearer (link : Link) (w : Wire) : Asked link w ((bearer link).run.run w) := by
  -- whatever call it is that something is shown for
  rcases exists_course_bearer link (fun _ => (pure () : Exchange Unit)) w with
    ⟨shown, hshown, hbearer⟩ | ⟨_, result, w', hbearer, hlogin⟩
  · rw [hbearer]
    exact .held hshown
  · rw [hbearer]
    cases hlogin with
    | received hlogin hrun => exact .received hlogin hrun
    | refused hlogin hrun => exact .refused hlogin hrun

namespace Asked
variable {link : Link} {w : Wire} {result : Except Fault String × Wire}

theorem credentials (h : Asked link w result) :
    result.2.session.credentials = w.session.credentials := by
  cases h with
  | held => rfl
  | refused _ hrun => exact congrArg Session.credentials (session_of_logIn hrun)
  | received _ hrun =>
    have hcredentials := congrArg Session.credentials (session_of_logIn hrun)
    exact hcredentials

/-- What is shown is what the session shows from then on. -/
theorem bearer? {shown : String} {w' : Wire} (h : Asked link w (.ok shown, w')) :
    w'.session.bearer? = some shown := by
  cases h with
  | held hshown => exact hshown
  | received hlogin hrun =>
    refine Session.bearer?_receive (Eq.trans ?_ hlogin)
    exact congrArg Session.credentials (session_of_logIn hrun)

theorem of_token {token : String} (h : Asked link w result)
    (htoken : w.session.credentials = .token token) : result = (.ok token, w) := by
  cases h with
  | held hshown =>
    unfold Session.bearer? at hshown
    rw [htoken] at hshown
    cases hshown
    rfl
  | refused hlogin => simp [htoken] at hlogin
  | received hlogin => simp [htoken] at hlogin

theorem of_error {username password : String} {f : Fault} {w' : Wire}
    (h : Asked link w (.error f, w')) (hlogin : w.session.credentials = .login username password) :
    (logIn link username password).run.run w = (.error f, w') := by
  cases h with
  | refused hlogin' hrun =>
    rw [hlogin] at hlogin'
    cases hlogin'
    exact hrun

end Asked

/-- No deed changes the credentials. -/
theorem Deed.credentials_runAll (link : Link) (deeds : List Deed) (w : Wire) :
    (runAll link deeds w).session.credentials = w.session.credentials := by
  induction deeds generalizing w with
  | nil => rfl
  | cons deed deeds ih =>
    refine (ih (deed.run link w)).trans ?_
    cases deed with
    | ask => exact (asked_bearer link w).credentials
    | exchange op shown =>
      obtain ⟨_, _, hsession, _⟩ := op.hears_exchange link shown w
      exact congrArg Session.credentials hsession
    | forget => rfl
    | wait time => rfl

/-! ## The latest key -/

/-- Whether no login brings a key. -/
def Keyless (l : List (Request × Answer)) : Prop :=
  ∀ x ∈ l, x.1.IsLogin → ∀ key, ¬ x.2.Brings key

/-- Whether a key is that of the last login that brings one. -/
def Latest (l : List (Request × Answer)) : Option String → Prop
  | none => Keyless l
  | some key => ∃ before login answer after, l = before ++ (login, answer) :: after ∧
      login.IsLogin ∧ answer.Brings key ∧ Keyless after

section Latest
variable {l l' : List (Request × Answer)} {key? : Option String}

theorem Keyless.append (h : Keyless l) (h' : Keyless l') : Keyless (l ++ l') := by
  intro x hx
  exact (List.mem_append.1 hx).elim (h x) (h' x)

/-- Without another key, the latest one stays. -/
theorem Latest.append (h : Latest l key?) (h' : Keyless l') : Latest (l ++ l') key? := by
  cases key? with
  | none => exact Keyless.append h h'
  | some key =>
    obtain ⟨before, login, answer, after, rfl, hlogin, hbrings, hafter⟩ := h
    exact ⟨before, login, answer, after ++ l', by simp, hlogin, hbrings, hafter.append h'⟩

/-- A login that brings a key brings the latest one. -/
theorem Latest.of_last {login : Request} {answer : Answer} {key : String} (hlogin : login.IsLogin)
    (hbrings : answer.Brings key) : Latest (l ++ [(login, answer)]) (some key) :=
  ⟨l, login, answer, [], rfl, hlogin, hbrings, by simp [Keyless]⟩

end Latest

def Session.held (s : Session) : Option String := s.key.map (·.value)

theorem Session.bearer?_of_login {s : Session} {username password : String}
    (h : s.credentials = .login username password) : s.bearer? = s.held := by
  unfold bearer?
  rw [h]
  rfl

/-- Whether a wire that goes on from another one holds the latest key that was heard of since. -/
def Wire.Holds (link : Link) (w₀ w : Wire) : Prop :=
  ∃ next, w.sent = w₀.sent ++ next ∧ Latest (heard link.server w₀.sent next) w.session.held

namespace Wire.Holds
variable {link : Link} {w₀ w w' : Wire}

theorem of_none (h : w.session.held = none) : w.Holds link w := by
  refine ⟨[], (List.append_nil _).symm, ?_⟩
  rw [h]
  intro x hx
  cases hx

/-- What is heard without a key changes nothing. -/
theorem keyless (h : w₀.Holds link w) {next : List Request} (hsent : w'.sent = w.sent ++ next)
    (hkey : w'.session.held = w.session.held)
    (hnext : Keyless (heard link.server w.sent next)) : w₀.Holds link w' := by
  obtain ⟨earlier, hearlier, hlatest⟩ := h
  refine ⟨earlier ++ next, by rw [hsent, hearlier, List.append_assoc], ?_⟩
  rw [hkey, heard_append, ← hearlier]
  exact hlatest.append hnext

theorem received (h : w₀.Holds link w) {username password key : String}
    (hrun : (logIn link username password).run.run w = (.ok key, w')) :
    w₀.Holds link (w'.receive link key) := by
  obtain ⟨earlier, hearlier, _⟩ := h
  obtain ⟨sent, retried, login, answer, hsent, hsplit, _, hlogin, hbrings⟩ :=
    Operation.heard_logIn hrun
  refine ⟨earlier ++ sent, ?_, ?_⟩
  · show w'.sent = _
    rw [hsent, hearlier, List.append_assoc]
  · rw [heard_append, ← hearlier, hsplit, ← List.append_assoc]
    exact .of_last hlogin hbrings

theorem refused (h : w₀.Holds link w) {username password : String} {f : Fault}
    (hrun : (logIn link username password).run.run w = (.error f, w')) : w₀.Holds link w' := by
  obtain ⟨_, next, hsent, hnone⟩ := logIn_error hrun
  have hsession := congrArg Session.held (session_of_logIn hrun)
  exact h.keyless hsent hsession fun x hx _ => hnone x hx

/-- Asking what to show leaves the latest key held, be it a new one. -/
theorem asked (h : w₀.Holds link w) : w₀.Holds link ((bearer link).run.run w).2 := by
  have hasked := asked_bearer link w
  generalize (bearer link).run.run w = result at hasked
  cases hasked with
  | held => exact h
  | refused _ hrun => exact h.refused hrun
  | received _ hrun => exact h.received hrun

/-- The exchange of a call is no login. -/
theorem exchanged (h : w₀.Holds link w) (op : Operation) (shown : String) :
    w₀.Holds link ((op.exchange link shown).run.run w).2 := by
  obtain ⟨next, hsent, hsession, _, hmade, _⟩ := op.hears_exchange link shown w
  refine h.keyless hsent (congrArg Session.held hsession) fun x hx hlogin => ?_
  exact absurd hlogin (Operation.of_request?_draft (hmade x hx)).1

theorem run (h : w₀.Holds link w) {deed : Deed} (hdeed : deed.isForget = false) :
    w₀.Holds link (deed.run link w) := by
  cases deed with
  | ask => exact h.asked
  | exchange op shown => exact h.exchanged op shown
  | forget => cases hdeed
  | wait time => exact h

end Wire.Holds

/-- After any deeds, the key that is held is the latest one since the key was last forgotten. -/
theorem Deed.holds_runAll (link : Link) (c : Credentials) (deeds : List Deed) :
    (runAll link (untilForgotten deeds) (.start c)).Holds link (runAll link deeds (.start c)) := by
  unfold untilForgotten
  induction deeds using List.reverseRecOn with
  | nil => exact .of_none rfl
  | append_singleton deeds deed ih =>
    cases hdeed : deed.isForget with
    | true =>
      rw [List.rdropWhile_concat_neg _ _ _ (by simp [hdeed])]
      cases deed with
      | forget =>
        rw [runAll_concat]
        exact .of_none rfl
      | ask => cases hdeed
      | exchange op shown => cases hdeed
      | wait time => cases hdeed
    | false =>
      rw [List.rdropWhile_concat_pos _ _ _ (by simp [hdeed]), runAll_concat]
      exact ih.run hdeed

/-- Whatever a caller has done, and whatever the server has answered: who has a fixed token is given
it; who logs in is given the key of the last login that brought one since the key was last
forgotten, or the fault of the login that was needed. It is never said that a session has expired,
nor that a token cannot log in. What a caller does comes down to deeds, after any of which this
holds. -/
theorem bearer_exact (link : Link) (c : Credentials) :
    (∀ errands : List Errand,
      Deed.runAll link (Errand.allDeeds link errands (.start c)) (.start c) =
        Errand.runAll link errands (.start c)) ∧
    ∀ deeds : List Deed,
      let forgotten := Deed.runAll link (Deed.untilForgotten deeds) (.start c)
      let w := Deed.runAll link deeds (.start c)
      match c, (bearer link).run.run w with
      | .token token, (result, w') => result = .ok token ∧ w' = w
      | .login _ _, (.ok shown, w') =>
        ∃ next, w'.sent = forgotten.sent ++ next ∧
          Latest (heard link.server forgotten.sent next) (some shown)
      | .login username password, (.error f, w') =>
        (logIn link username password).run.run w = (.error f, w') ∧ LogInFault username f ∧
          (∀ name, f ≠ .sessionExpired name) ∧
          f ≠ .authFailed "Cannot login with API token auth strategy" := by
  refine ⟨fun errands => Errand.run_allDeeds link (.start c) errands, fun deeds => ?_⟩
  intro forgotten w
  have hcredentials : w.session.credentials = c := Deed.credentials_runAll link deeds (.start c)
  have hasked := asked_bearer link w
  have hholds : forgotten.Holds link ((bearer link).run.run w).2 :=
    (Deed.holds_runAll link c deeds).asked
  rcases hrun : (bearer link).run.run w with ⟨result, w'⟩
  rw [hrun] at hasked hholds
  cases c with
  | token token =>
    exact Prod.mk.inj (hasked.of_token hcredentials)
  | login username password =>
    cases result with
    | error f =>
      have hlogin := hasked.of_error hcredentials
      have hfault := (logIn_error hlogin).1
      exact ⟨hlogin, hfault, hfault.ne_sessionExpired, hfault.ne_cannotLogIn⟩
    | ok shown =>
      obtain ⟨next, hsent, hlatest⟩ := hholds
      have hlogin' : w'.session.credentials = .login username password :=
        hasked.credentials.trans hcredentials
      have hheld : w'.session.held = some shown := by
        rw [← Session.bearer?_of_login hlogin']
        exact hasked.bearer?
      rw [hheld] at hlatest
      exact ⟨next, hsent, hlatest⟩

/-- A server that brings a key of its own with every login, and refuses a request that shows the
first one. -/
def Server.numbering : Server := fun past r =>
  if r.authorization = none then
    ⟨.response 200 none ("\x7b\"sessionKey\":\"k" ++ toString past.length ++ "\"\x7d"), ⟨1⟩, none⟩
  else if r.authorization = some "Bearer k0" then ⟨.response 401 none "", ⟨1⟩, none⟩
  else ⟨.response 200 none "", ⟨1⟩, none⟩

/-- A call that is refused leaves the key of its second login; once that is due, another one is
shown. -/
example :
    let link : Link := ⟨"https://h", 0, .ofSeconds 120, .ofSeconds 60, false, .numbering⟩
    let update := Operation.updateMacro "nobody" "app" "m" "d"
    let shown := fun errands => ((bearer link).run.run
      (Errand.runAll link errands (.start (.login "u" "p")))).1.toOption
    shown [] = some "k0" ∧ shown [.call update] = some "k2" ∧
      shown [.call update, .wait (.ofSeconds 30)] = some "k2" ∧
      shown [.call update, .wait (.ofSeconds 90)] = some "k4" ∧
      shown [.call update, .forget] = some "k4" := by
  decide +kernel

end AccelForm.Rest
