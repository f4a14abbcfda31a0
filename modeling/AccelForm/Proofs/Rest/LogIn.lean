import AccelForm.Proofs.Rest.Answers
import AccelForm.Proofs.Rest.Attempts
/-
  How a login fails

  A login fails where its request does, where the answer cannot be read, and
  where there is no key in it (`LogInFault`). Attempts that end in a fault were
  granted nothing, so a login that fails has heard of no key: what was held
  before is still the latest one.
-/

namespace AccelForm.Rest

/-! ## Attempts that end in a fault -/

/-- A request that is sent again and again hears the answers to it in order. -/
theorem heard_replicate (server : Server) (past : List Request) (r : Request) (n : Nat) :
    heard server past (List.replicate n r) =
      (List.range n).map fun i => (r, server.answers past r i) := by
  induction n with
  | zero => rfl
  | succ n ih =>
    rw [List.replicate_succ', heard_append, ih, List.range_succ, List.map_append]
    rfl

namespace Trial
variable {r : Request} {answer : Answer}

/-- An attempt that is granted is the last one, and what it comes to is the response. -/
theorem ending_of_isGrant (h : answer.IsGrant) (made : Nat) :
    (ofAnswer r answer).isPutOff = false ∧ ∃ a, (ofAnswer r answer).ending made = .ok a := by
  obtain ⟨status, requestId, body, hreply, hstatus⟩ := h
  have houtcome := Answer.outcome_of_response hreply r
  have hsuccess : (⟨status, (answer.landed.getD r.url).text, requestId, body⟩ : Response).isSuccess
      = true := Response.isSuccess_iff.2 hstatus
  constructor
  · rw [isPutOff_of_ok houtcome]
    refine Bool.eq_false_iff.2 fun htransient => ?_
    rw [Response.isSuccess_of_isTransientStatus htransient] at hsuccess
    cases hsuccess
  · rw [ending_of_ok houtcome, if_pos hsuccess]
    exact ⟨_, rfl⟩

end Trial

/-- What the attempts of a request can come to but a response: there is none, none but those that
put it off, or one without success. -/
inductive SendFault : Fault → Prop
  | brokenDown (b : Breakdown) : SendFault (.transport b)
  | exceeded (attempts : Nat) : SendFault (.retriesExceeded attempts)
  | conflict (text : String) : SendFault (.conflict text)
  | refused (status : Nat) (url message : String) (requestId : Option String) :
    SendFault (.refused status url message requestId)

theorem SendFault.of_response (a : Response) : SendFault a.fault := by
  unfold Response.fault
  split
  · exact .conflict _
  · exact .refused _ _ _ _

theorem SendFault.of_ending {t : Trial} {made : Nat} {f : Fault}
    (h : t.ending made = .error f) : SendFault f := by
  cases houtcome : t.outcome with
  | error b =>
    rw [Trial.ending_of_error houtcome] at h
    cases h
    exact .brokenDown b
  | ok a =>
    rw [Trial.ending_of_ok houtcome] at h
    split at h
    · cases h
    · split at h
      · cases h
        exact .exceeded _
      · cases h
        exact .of_response a

namespace Exchange
variable {link : Link} {label : Label} {d : Draft} {w w' : Wire} {f : Fault}

theorem sendFault_of_error (h : (send link label d).run.run w = (.error f, w')) : SendFault f := by
  obtain ⟨n, hn⟩ := Trial.exists_endAt (d.trials link.server w.sent) link.maxRetries
  rw [run_send link label hn] at h
  exact .of_ending (congrArg Prod.fst h)

/-- Where sending ends in a fault, nothing was granted. -/
theorem not_isGrant_of_error (h : (send link label d).run.run w = (.error f, w'))
    {next : List Request} (hsent : w'.sent = w.sent ++ next) :
    ∀ x ∈ heard link.server w.sent next, ¬ x.2.IsGrant := by
  intro x hx hgrant
  obtain ⟨n, hn⟩ := Trial.exists_endAt (d.trials link.server w.sent) link.maxRetries
  have hfault : (d.trials link.server w.sent n).ending n = .error f := by
    rw [run_send link label hn] at h
    exact congrArg Prod.fst h
  -- whatever was heard answers one of the attempts, and all of them send the same
  obtain ⟨next', hsent', _, _, hmade, _⟩ := hears_send link label d w
  rw [h] at hsent'
  obtain rfl : next = next' := List.append_cancel_left (hsent.symm.trans hsent')
  have hr : d.request? = some x.1 := hmade x hx
  have hall := sent_of_endAt link label hr w hn
  rw [h] at hall
  rw [List.append_cancel_left (hsent.symm.trans hall), heard_replicate] at hx
  obtain ⟨i, hi, hxi⟩ := List.mem_map.1 hx
  have hanswer : link.server.answers w.sent x.1 i = x.2 := congrArg Prod.snd hxi
  have htrial : d.trials link.server w.sent i = .ofAnswer x.1 x.2 := by
    rw [Draft.trials_of_some hr, ← hanswer]
  obtain ⟨hfinal, a, hending⟩ := Trial.ending_of_isGrant (r := x.1) hgrant n
  rcases Nat.lt_trichotomy i n with hlt | rfl | hlt
  · have hput := hn.before i hlt
    rw [htrial, hfinal] at hput
    cases hput
  · rw [htrial, hending] at hfault
    cases hfault
  · have hle := List.mem_range.1 hi
    split at hle <;> omega

end Exchange

/-! ## Logins that end in a fault -/

/-- What a login can fail with: a fault of its request, refused credentials, which are said to be
that, or a response in which there is no key. -/
inductive LogInFault (username : String) : Fault → Prop
  | failed {f : Fault} (h : SendFault f) (hno : f.status? ≠ some 401) : LogInFault username f
  | rejected :
    LogInFault username (.authFailed ("invalid credentials for user '" ++ username ++ "'"))
  | unread (text : String) : LogInFault username (.invalidResponse text)

/-- No login fails because there is nothing to show. -/
theorem LogInFault.ne_sessionExpired {username : String} {f : Fault} (h : LogInFault username f)
    (name : String) : f ≠ .sessionExpired name := by
  intro hf
  subst hf
  cases h with
  | failed h => cases h

/-- No login fails because there cannot be one. -/
theorem LogInFault.ne_cannotLogIn {username : String} {f : Fault} (h : LogInFault username f) :
    f ≠ .authFailed "Cannot login with API token auth strategy" := by
  intro hf
  cases h with
  | failed h =>
    subst hf
    cases h
  | rejected =>
    -- the one text begins with an "i", the other with a "C"
    have hhead := congrArg (·.toList.head?) (Fault.authFailed.inj hf)
    simp at hhead
  | unread text => cases hf

namespace Client
variable {link : Link} {username password : String} {w w' : Wire} {f : Fault}

theorem logInFault_of_refusedLogin (h : SendFault f) :
    LogInFault username (refusedLogin username f) := by
  unfold refusedLogin
  split
  · exact .rejected
  · next hno =>
    refine .failed h fun hstatus => ?_
    cases h with
    | refused status url message requestId =>
      cases hstatus
      exact hno _ _ _ rfl
    | conflict text => cases hstatus
    | brokenDown b => cases hstatus
    | exceeded attempts => cases hstatus

def keyOf (r : Response) : Except Fault String :=
  (r.readAs "login" Json.Reader.value).bind fun v =>
    (sessionKey? v).elim (.error (.invalidResponse "Missing sessionKey in response")) .ok

/-- A response without a key is what a login cannot use, and brings none. -/
theorem of_keyOf_error {r : Response} (h : keyOf r = .error f) :
    (∃ text, f = .invalidResponse text) ∧
      (Json.Reader.value.run r.body).bind sessionKey? = none := by
  unfold keyOf Response.readAs at h
  cases hbody : Json.Reader.value.run r.body with
  | none =>
    rw [hbody] at h
    cases h
    exact ⟨⟨_, rfl⟩, rfl⟩
  | some v =>
    rw [hbody] at h
    change (sessionKey? v).elim _ _ = _ at h
    cases hkey : sessionKey? v with
    | none =>
      rw [hkey] at h
      cases h
      exact ⟨⟨_, rfl⟩, hkey⟩
    | some key =>
      rw [hkey] at h
      cases h

/-- A login is a request and what is read of its response. -/
theorem logIn_eq (link : Link) (username password : String) :
    logIn link username password = ExceptT.mk
      ((fun o => (o.mapError (refusedLogin username)).bind keyOf) <$>
        (Exchange.send link ⟨"/services/auth/login", .post⟩
          (.login link.baseUrl username password)).run) := by
  refine (Exchange.bind_eq_mk (g := keyOf) fun r => ?_).trans ?_
  · rw [ExceptT.run_bind, Exchange.parsed_run, pure_bind]
    unfold keyOf
    cases r.readAs "login" Json.Reader.value with
    | error e => rfl
    | ok v =>
      dsimp only [Except.bind]
      cases sessionKey? v <;> rfl
  · rw [Exchange.mapFault_eq_mk, ExceptT.run_mk, Functor.map_map]
    rfl

/-- A login that fails, fails by a fault of its own, and has heard of no key. -/
theorem logIn_error (h : (logIn link username password).run.run w = (.error f, w')) :
    LogInFault username f ∧ ∃ next, w'.sent = w.sent ++ next ∧
      ∀ x ∈ heard link.server w.sent next, ∀ key, ¬ x.2.Brings key := by
  obtain ⟨next, hsent, _, _, htold⟩ := Exchange.hears_send link ⟨"/services/auth/login", .post⟩
    (.login link.baseUrl username password) w
  rw [logIn_eq, ExceptT.run_mk, StateT.run_map] at h
  rcases hrun : (Exchange.send link ⟨"/services/auth/login", .post⟩
    (.login link.baseUrl username password)).run.run w with ⟨e | a, w₁⟩
  · rw [hrun] at h hsent
    cases h
    refine ⟨logInFault_of_refusedLogin (Exchange.sendFault_of_error hrun), next, hsent,
      fun x hx key hbrings => ?_⟩
    exact Exchange.not_isGrant_of_error hrun hsent x hx hbrings.isGrant
  · rw [hrun] at h hsent htold
    obtain rfl : w₁ = w' := congrArg Prod.snd h
    have hkey : keyOf a = .error f := congrArg Prod.fst h
    obtain ⟨⟨text, rfl⟩, hnone⟩ := of_keyOf_error hkey
    obtain ⟨_, _, before, r, answer, hsplit, hreply, hbefore⟩ := htold
    refine ⟨.unread text, next, hsent, fun x hx key hbrings => ?_⟩
    rw [hsplit] at hx
    rcases List.mem_append.1 hx with hx | hx
    · exact hbefore x hx hbrings.isGrant
    · -- the last answer is the one that was read
      obtain rfl := List.mem_singleton.1 hx
      obtain ⟨status, requestId, body, hreply', _, hbody⟩ := hbrings
      rw [hreply] at hreply'
      cases hreply'
      rw [hnone] at hbody
      cases hbody

end Client

end AccelForm.Rest
