import AccelForm.Form.Remote
import AccelForm.Proofs.Config.Build
import AccelForm.Proofs.Rest.Renewal
import Mathlib.Data.List.Basic
/-
  How long one login serves

  The margin of a session is shorter than its lifetime, so a key serves from
  the login that brings it until a margin before its end: it is shown as it is,
  and as long as it is not refused, nobody logs in again. By induction over the
  calls, one login serves all of them.
-/

namespace AccelForm.Rest

open Client

/-! ## Calls one after the other -/

/-- One wire goes on where another one is: it has sent no less, and its clock shows no less. -/
def Wire.Before (w w' : Wire) : Prop := (∃ next, w'.sent = w.sent ++ next) ∧ w.clock ≤ w'.clock

namespace Wire.Before
variable {w w' w'' : Wire}

theorem refl (w : Wire) : w.Before w := ⟨⟨[], (List.append_nil _).symm⟩, Nat.le_refl _⟩

theorem trans (h : w.Before w') (h' : w'.Before w'') : w.Before w'' := by
  obtain ⟨⟨l, hl⟩, hclock⟩ := h
  obtain ⟨⟨l', hl'⟩, hclock'⟩ := h'
  refine ⟨⟨l ++ l', ?_⟩, Nat.le_trans hclock hclock'⟩
  rw [hl', hl, List.append_assoc]

theorem of_run {server : Server} {β : Type} {J : β → List (Request × Answer) → Prop}
    {x : StateM Wire β} {b : β} (h : Hears server J x) (hrun : x.run w = (b, w')) :
    w.Before w' := by
  obtain ⟨next, hsent, _, hclock, _⟩ := h w
  rw [hrun] at hsent hclock
  exact ⟨⟨next, hsent⟩, hclock⟩

theorem of_takes {link : Link} {op : Operation} {act : Act op.Result}
    (h : act.Takes link (op.exchange link) w w') : w.Before w' := by
  cases h with
  | received _ hrun =>
    have hbefore := of_run (hears_logIn link _ _) hrun
    exact hbefore
  | refused _ hrun => exact of_run (hears_logIn link _ _) hrun
  | forgotten => exact refl w
  | exchanged hrun => exact of_run (op.hears_exchange link _) hrun

theorem of_course {link : Link} {op : Operation} {acts : List (Act op.Result)}
    (h : Course link (op.exchange link) w acts w') : w.Before w' := by
  induction h with
  | nil => exact refl _
  | cons hstep _ ih => exact (of_takes hstep).trans ih

end Wire.Before

/-- The wire after some time in which nothing happens. -/
def Wire.idle (t : Duration) (w : Wire) : Wire := { w with clock := w.clock + t.nanos }

namespace Operation

/-- The wire after calls, each made after some time in which nothing happens. -/
def runAll (link : Link) (calls : List (Duration × Operation)) (w : Wire) : Wire :=
  calls.foldl (fun w call => ((call.2.perform link).run.run (w.idle call.1)).2) w

theorem runAll_cons (link : Link) (idle : Duration) (op : Operation)
    (calls : List (Duration × Operation)) (w : Wire) : runAll link ((idle, op) :: calls) w =
      runAll link calls ((op.perform link).run.run (w.idle idle)).2 := rfl

def exchangeAll (link : Link) (key : String) (calls : List (Duration × Operation)) (w : Wire) :
    Wire :=
  calls.foldl (fun w call => ((call.2.exchange link key).run.run (w.idle call.1)).2) w

theorem before_perform (link : Link) (op : Operation) (w : Wire) :
    w.Before ((op.perform link).run.run w).2 := by
  obtain ⟨_, hcourse, _⟩ := op.exists_course link w
  exact .of_course hcourse

theorem before_runAll (link : Link) (calls : List (Duration × Operation)) (w : Wire) :
    w.Before (runAll link calls w) := by
  induction calls generalizing w with
  | nil => exact .refl w
  | cons call calls ih =>
    have hidle : w.Before (w.idle call.1) :=
      ⟨⟨[], (List.append_nil _).symm⟩, Nat.le_add_right _ _⟩
    exact (hidle.trans (before_perform link call.2 _)).trans (ih _)

end Operation

/-! ## A key that serves -/

namespace Session

/-- Whether a session shows a key without a login until some moment. -/
def Serves (s : Session) (key : String) (until_ : Nat) : Prop :=
  s.bearer? = some key ∧ ∀ now ≤ until_, s.needsLogin now = false

/-- A key serves until a margin before its end, if the margin is shorter than its lifetime. -/
theorem serves_receive {s : Session} {username password key : String} {lifetime margin : Duration}
    (h : s.credentials = .login username password) (hpos : 0 < margin.nanos)
    (hshort : margin.nanos ≤ lifetime.nanos) (now : Nat) :
    (s.receive now key (some lifetime) (some margin)).Serves key
      (now + (lifetime.nanos - margin.nanos)) := by
  refine ⟨bearer?_receive h, fun later hlater => ?_⟩
  have hcounts : ¬ now + lifetime.nanos ≤ later := by omega
  have hlong : ¬ now + lifetime.nanos - later < margin.nanos := by omega
  show (_ && decide (now + lifetime.nanos ≤ later) ||
    _ && decide (now + lifetime.nanos - later < margin.nanos)) = false
  rw [decide_eq_false hcounts, decide_eq_false hlong, Bool.and_false]
  rfl

end Session

namespace Operation
variable {link : Link} {key : String} {end_ : Nat} {w : Wire}

theorem sends_exchange (link : Link) (op : Operation) (shown : String) :
    Sends (fun _ => True) (op.exchange link shown).run := by
  have hsend : Sends (fun _ => True) (Exchange.send link ⟨op.endpoint, op.method⟩
      (op.draft link.baseUrl shown)).run :=
    Exchange.alike_send (.refl _ _) _ fun _ _ => trivial
  exact hsend.bind fun _ => .pure _

/-- While a key serves, a call is its exchange with that key, unless the key is refused. -/
theorem perform_of_serves (link : Link) (op : Operation) (hserves : w.session.Serves key end_)
    (hclock : w.clock ≤ end_) :
    (∃ next, ((op.perform link).run.run w).2.sent = w.sent ++ next ∧
      ∃ x ∈ heard link.server w.sent next, x.2.IsRefusal) ∨
    (op.perform link).run.run w = (op.exchange link key).run.run w := by
  have hbearer : (bearer link).run.run w = (.ok key, w) :=
    bearer_held (hserves.2 _ hclock) hserves.1
  obtain ⟨next, hsent, _, _, _, hrefusal⟩ := op.hears_exchange link key w
  rw [op.perform_eq]
  unfold renewing
  rw [Exchange.run_bind_of_ok hbearer]
  rcases hrun : (op.exchange link key).run.run w with ⟨f | a, w₁⟩
  · rw [hrun] at hsent hrefusal
    rw [Exchange.run_tryCatch_of_error hrun]
    cases hf : isRefusal f with
    | false => exact .inr rfl
    | true =>
      -- the key is refused, and whatever follows only adds to what was sent
      left
      have hafter : Sends (fun _ => True) (do
          if true && !(← get).session.hasToken then
            forget
            op.exchange link (← bearer link)
          else throw f : Exchange op.Result).run := by
        refine .get_andThen fun v => ?_
        split
        · exact sends_forget.andThen fun _ =>
            (alike_bearer (.refl _ _) fun _ _ => trivial).andThen (sends_exchange link op)
        · exact .throw _
      obtain ⟨l, hl, _⟩ := hafter.sends w₁
      refine ⟨next ++ l, ?_, ?_⟩
      · rw [← List.append_assoc, ← hsent]
        exact hl
      · obtain ⟨x, hx, hanswer⟩ := hrefusal f rfl hf
        rw [heard_append]
        exact ⟨x, List.mem_append_left _ hx, hanswer⟩
  · rw [Exchange.run_tryCatch_of_ok hrun]
    exact .inr rfl

/-- The requests of an exchange show what the caller shows, which a login does not. -/
theorem of_request?_draft {base shown : String} {r : Request} {op : Operation}
    (h : (op.draft base shown).request? = some r) :
    ¬ r.IsLogin ∧ r.authorization = some ("Bearer " ++ shown) := by
  have hshown : r.authorization = some ("Bearer " ++ shown) := (Draft.of_request?_eq_some h).2.1
  refine ⟨fun hlogin => ?_, hshown⟩
  rw [hlogin.authorization] at hshown
  cases hshown

/-- While a key serves, all calls are their exchanges with it and every request shows it, unless it
is refused. -/
theorem runAll_of_serves (calls : List (Duration × Operation)) (w : Wire)
    (hserves : w.session.Serves key end_) (hclock : (runAll link calls w).clock ≤ end_) :
    ∃ rest, (runAll link calls w).sent = w.sent ++ rest ∧
      ((∃ x ∈ heard link.server w.sent rest, x.2.IsRefusal) ∨
        runAll link calls w = exchangeAll link key calls w ∧
          ∀ r ∈ rest, ¬ r.IsLogin ∧ r.authorization = some ("Bearer " ++ key)) := by
  induction calls generalizing w with
  | nil => exact ⟨[], (List.append_nil _).symm, .inr ⟨rfl, by simp⟩⟩
  | cons call calls ih =>
    obtain ⟨idle, op⟩ := call
    have hlater := before_runAll link calls ((op.perform link).run.run (w.idle idle)).2
    have hnow : (w.idle idle).clock ≤ end_ :=
      Nat.le_trans ((before_perform link op (w.idle idle)).trans hlater).2 hclock
    have hidle : (w.idle idle).session.Serves key end_ := hserves
    rcases perform_of_serves link op hidle hnow with ⟨next, hsent, hrefusal⟩ | hrun
    · obtain ⟨more, hmore⟩ := hlater.1
      refine ⟨next ++ more, ?_, .inl ?_⟩
      · rw [hsent] at hmore
        exact hmore.trans (List.append_assoc ..)
      · obtain ⟨x, hx, hanswer⟩ := hrefusal
        rw [heard_append]
        exact ⟨x, List.mem_append_left _ hx, hanswer⟩
    · obtain ⟨next, hsent, hsession, _, hmade, _⟩ := op.hears_exchange link key (w.idle idle)
      rw [← hrun] at hsent hsession
      obtain ⟨rest, hrest, hshown⟩ :=
        ih ((op.perform link).run.run (w.idle idle)).2 (hsession ▸ hserves) hclock
      have hsofar : ((op.perform link).run.run (w.idle idle)).2.sent = w.sent ++ next := hsent
      rw [hsofar] at hrest hshown
      refine ⟨next ++ rest, hrest.trans (List.append_assoc ..), ?_⟩
      rw [heard_append]
      rcases hshown with ⟨x, hx, hanswer⟩ | ⟨hcalls, hshown⟩
      · exact .inl ⟨x, List.mem_append_right _ hx, hanswer⟩
      · refine .inr ⟨?_, fun r hr => (List.mem_append.1 hr).elim (fun hr => ?_) (hshown r)⟩
        · rw [hrun] at hcalls
          rw [runAll_cons, hrun]
          exact hcalls
        · rw [← map_fst_heard link.server w.sent next] at hr
          obtain ⟨x, hx, rfl⟩ := List.mem_map.1 hr
          exact of_request?_draft (hmade x hx)

/-- A call that needs a login is the call of who is logged in, once the login has brought a key. -/
theorem perform_of_received (op : Operation) {username password : String} {w₀ : Wire}
    (hneed : w.session.needsLogin w.clock = true)
    (hlogin : w.session.credentials = .login username password)
    (hrun : (logIn link username password).run.run w = (.ok key, w₀))
    (hserves : (w₀.receive link key).session.Serves key end_) (hclock : w₀.clock ≤ end_) :
    (op.perform link).run.run w = (op.perform link).run.run (w₀.receive link key) := by
  have hheld : (bearer link).run.run (w₀.receive link key) = (.ok key, w₀.receive link key) :=
    bearer_held (hserves.2 _ hclock) hserves.1
  rw [op.perform_eq]
  unfold renewing
  rw [Exchange.run_bind_of_ok (bearer_received hneed hlogin hrun), Exchange.run_bind_of_ok hheld]

end Operation

end AccelForm.Rest

namespace AccelForm.Rest.Operation
variable {key username password : String}

/-- What is heard of a login that brings a key: answers without a key, and the one with it. -/
theorem heard_logIn {link : Link} {w w₀ : Wire}
    (hrun : (Client.logIn link username password).run.run w = (.ok key, w₀)) :
    ∃ sent retried login answer, w₀.sent = w.sent ++ sent ∧
      heard link.server w.sent sent = retried ++ [(login, answer)] ∧
      (∀ x ∈ retried, x.1.IsLogin ∧ ∀ other, ¬ x.2.Brings other) ∧
      (login.IsLogin ∧ answer.Brings key) := by
  obtain ⟨sent, hsent, _, _, hlogged⟩ := Client.hears_logIn link username password w
  rw [hrun] at hsent hlogged
  obtain ⟨hmade, retried, login, answer, hsplit, hbrings, hnone⟩ := hlogged key rfl
  have hislogin : ∀ x ∈ retried ++ [(login, answer)], x.1.IsLogin := fun x hx =>
    ⟨link.baseUrl, username, password, hmade x (hsplit ▸ hx)⟩
  refine ⟨sent, retried, login, answer, hsent, hsplit, fun x hx => ?_, ?_, hbrings⟩
  · exact ⟨hislogin x (List.mem_append_left _ hx), hnone x hx⟩
  · exact hislogin _ (List.mem_append_right _ (List.mem_singleton_self _))

/-- One login serves all calls for the lifetime of its session less the margin. -/
theorem heard_of_first_login (link : Link) (hpos : 0 < link.margin.nanos)
    (hshort : link.margin.nanos ≤ link.lifetime.nanos) (idle : Duration) (op : Operation)
    (calls : List (Duration × Operation)) {w₀ w : Wire}
    (hfirst : (Client.logIn link username password).run.run
      ((Wire.start (.login username password)).idle idle) = (.ok key, w₀))
    (hw : w = runAll link ((idle, op) :: calls) (.start (.login username password)))
    (hunrefused : ∀ x ∈ heard link.server [] w.sent, ¬ x.2.IsRefusal)
    (htime : w.clock ≤ w₀.clock + (link.lifetime.nanos - link.margin.nanos)) :
    ∃ retried login answer rest,
      heard link.server [] w.sent = retried ++ (login, answer) :: rest ∧
      (∀ x ∈ retried, x.1.IsLogin ∧ ∀ other, ¬ x.2.Brings other) ∧
      (login.IsLogin ∧ answer.Brings key) ∧
      (∀ x ∈ rest, ¬ x.1.IsLogin ∧ x.1.authorization = some ("Bearer " ++ key)) ∧
      w = exchangeAll link key ((⟨0⟩, op) :: calls) (w₀.receive link key) := by
  have hsession : w₀.session = .start (.login username password) :=
    Client.session_of_logIn hfirst
  have hserves : (w₀.receive link key).session.Serves key
      (w₀.clock + (link.lifetime.nanos - link.margin.nanos)) :=
    Session.serves_receive (congrArg Session.credentials hsession) hpos hshort w₀.clock
  -- after the login, the first call is one of those that the key serves
  have hcalls : w = runAll link ((⟨0⟩, op) :: calls) (w₀.receive link key) := by
    rw [hw, runAll_cons,
      perform_of_received op rfl rfl hfirst hserves (Nat.le_add_right _ _)]
    rfl
  obtain ⟨rest, hrest, hserved⟩ := runAll_of_serves ((⟨0⟩, op) :: calls) (w₀.receive link key)
    hserves (hcalls ▸ htime)
  rw [← hcalls] at hrest hserved
  obtain ⟨sent, retried, login, answer, hsent, hlogins, hretried, hlogin⟩ := heard_logIn hfirst
  have hheard : heard link.server [] w.sent =
      retried ++ (login, answer) :: heard link.server w₀.sent rest := by
    have hall : w.sent = sent ++ rest := hrest.trans (congrArg (· ++ rest) hsent)
    have hbegun : w₀.sent = [] ++ sent := hsent
    rw [hall, heard_append, ← hbegun]
    exact (congrArg (· ++ _) hlogins).trans (List.append_assoc ..)
  rcases hserved with ⟨x, hx, hrefusal⟩ | ⟨hexchanges, hshown⟩
  · refine absurd hrefusal (hunrefused x ?_)
    rw [hheard]
    exact List.mem_append_right _ (List.mem_cons_of_mem _ hx)
  · refine ⟨retried, login, answer, _, hheard, hretried, hlogin, fun x hx => ?_, hexchanges⟩
    refine hshown x.1 ?_
    rw [← map_fst_heard link.server w₀.sent rest]
    exact List.mem_map_of_mem hx

end AccelForm.Rest.Operation

namespace AccelForm.Config

open Rest (Answer Server Wire heard)

/-- With a configuration that was put together, one login serves all calls for the lifetime of its
session less the margin, as long as nothing is refused: only the last of the login requests is
answered with a key, every later request shows that key, and all calls are their exchanges with
it. -/
theorem one_login_serves {l : Loader} {c : Config} {username password key : String}
    (hbuild : l.build = .ok c) (hlogin : c.credentials = .login username password)
    (server : Server) (metered : Bool) (idle : Duration) (op : Rest.Operation)
    (calls : List (Duration × Rest.Operation)) {w₀ w : Wire}
    (hfirst : (Rest.Client.logIn { c.connection.link server with metered := metered } username
      password).run.run ((Wire.start c.credentials).idle idle) = (.ok key, w₀))
    (hw : w = Rest.Operation.runAll { c.connection.link server with metered := metered }
      ((idle, op) :: calls) (.start c.credentials))
    (hunrefused : ∀ x ∈ heard server [] w.sent, ¬ x.2.IsRefusal)
    (htime : w.clock ≤ w₀.clock +
      (Duration.ofSeconds (c.connection.sessionLifetime - c.connection.renewalMargin)).nanos) :
    ∃ retried login answer rest,
      heard server [] w.sent = retried ++ (login, answer) :: rest ∧
      (∀ x ∈ retried, x.1.IsLogin ∧ ∀ other, ¬ x.2.Brings other) ∧
      (login.IsLogin ∧ answer.Brings key) ∧
      (∀ x ∈ rest, ¬ x.1.IsLogin ∧ x.1.authorization = some ("Bearer " ++ key)) ∧
      w = Rest.Operation.exchangeAll { c.connection.link server with metered := metered } key
        ((⟨0⟩, op) :: calls)
        (w₀.receive { c.connection.link server with metered := metered } key) := by
  obtain ⟨base, hconnection, _, _, hlimits, _⟩ := Loader.of_build_eq_ok hbuild
  have hshort := Loader.margin_lt_of_limits hlimits
  have hpos : 0 < c.connection.renewalMargin := by
    rw [hconnection]
    show 0 < defaultMargin
    decide
  rw [hlogin] at hfirst hw
  refine Rest.Operation.heard_of_first_login { c.connection.link server with metered := metered }
    ?_ ?_ idle op calls hfirst hw hunrefused ?_
  · exact Nat.mul_pos hpos (by decide)
  · exact Nat.mul_le_mul_right _ (Nat.le_of_lt hshort)
  · refine Nat.le_trans htime (Nat.le_of_eq ?_)
    exact congrArg (w₀.clock + ·) (Nat.sub_mul ..)

/-- A server that brings a key with every login, and grants every other request. -/
def grantingServer : Server := fun _ r =>
  if r.authorization = none then ⟨.response 200 none "\x7b\"sessionKey\":\"k\"\x7d", .ofSeconds 1, none⟩
  else ⟨.response 200 none "", .ofSeconds 1, none⟩

theorem grantingServer_grants (past : List Rest.Request) (r : Rest.Request) :
    ¬ (grantingServer past r).IsRefusal := by
  rintro ⟨status, requestId, body, hreply, hstatus⟩
  unfold grantingServer at hreply
  split at hreply
  · cases hreply
    omega
  · cases hreply
    omega

/-- What a login takes, and nothing else. -/
def Loader.bare : Loader :=
  (Loader.start ⟨.empty, "/", fun _ => .absent⟩).lay
    { baseUrl := some "https://h", username := some "u", password := some "p" }

/-- The configuration that is put together of it. -/
def bare : Config :=
  ⟨Loader.connection Loader.bare.layer "https://h", .login "u" "p",
    Loader.target Loader.bare.layer⟩

/-- Two calls with one login, the second one most of an hour after the first. -/
theorem one_login_serves_bare :
    let link := { bare.connection.link grantingServer with metered := false }
    let update := Rest.Operation.updateMacro "nobody" "app" "m" "d"
    let w := Rest.Operation.runAll link [(⟨0⟩, update), (.ofSeconds 3500, update)]
      (.start bare.credentials)
    Loader.bare.build = .ok bare ∧ (∀ x ∈ heard grantingServer [] w.sent, ¬ x.2.IsRefusal) ∧
    ∃ retried login answer rest,
      heard grantingServer [] w.sent = retried ++ (login, answer) :: rest ∧
      (∀ x ∈ retried, x.1.IsLogin ∧ ∀ other, ¬ x.2.Brings other) ∧
      (login.IsLogin ∧ answer.Brings "k") ∧
      (∀ x ∈ rest, ¬ x.1.IsLogin ∧ x.1.authorization = some "Bearer k") := by
  intro link update w
  have hbuild : Loader.bare.build = .ok bare := by decide +kernel
  have hunrefused : ∀ x ∈ heard grantingServer [] w.sent, ¬ x.2.IsRefusal := by
    intro x hx
    obtain ⟨past, hanswer⟩ := Rest.exists_past_of_mem_heard hx
    rw [hanswer]
    exact grantingServer_grants past x.1
  have hkey : ((Rest.Client.logIn link "u" "p").run.run
      ((Wire.start bare.credentials).idle ⟨0⟩)).1 = .ok "k" := by decide +kernel
  obtain ⟨w₀, hfirst⟩ : ∃ w₀, (Rest.Client.logIn link "u" "p").run.run
      ((Wire.start bare.credentials).idle ⟨0⟩) = (.ok "k", w₀) := ⟨_, Prod.ext hkey rfl⟩
  have htime : w.clock ≤ w₀.clock + (Duration.ofSeconds
      (bare.connection.sessionLifetime - bare.connection.renewalMargin)).nanos :=
    Nat.le_trans (by decide +kernel) (Nat.le_add_left _ _)
  obtain ⟨retried, login, answer, rest, hheard, hretried, hlogin, hrest, _⟩ :=
    one_login_serves hbuild rfl grantingServer false ⟨0⟩ update [(.ofSeconds 3500, update)]
      hfirst rfl hunrefused htime
  exact ⟨hbuild, hunrefused, retried, login, answer, rest, hheard, hretried, hlogin, hrest⟩

end AccelForm.Config
