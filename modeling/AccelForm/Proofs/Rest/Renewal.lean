import AccelForm.Proofs.Rest.Bearer
import AccelForm.Proofs.Rest.Redirect
/-
  How a call renews the session

  A call takes a course of steps: it logs in, it makes its exchange with the
  endpoint, and it forgets the session key. Whatever the server answers, there
  are at most two logins and two exchanges, and with a fixed token no login and
  one exchange; the second exchange follows a refusal and a new login, and is
  the end. So a call costs at most four requests with all their retries, each
  of which is six single requests at most: the first one and those that follow
  redirections.
-/

namespace AccelForm.Rest

/-! ## The course of a call -/

/-- A step of a call. -/
inductive Act (α : Type) where
  | logIn (result : Except Fault String)
  | forget
  | exchange (shown : String) (result : Except Fault α)

namespace Act
variable {α : Type}

def isLogIn : Act α → Bool
  | .logIn _ => true
  | _ => false

def isExchange : Act α → Bool
  | .exchange _ _ => true
  | _ => false

/-- A step takes one wire to another; `call` is the exchange with the endpoint. -/
inductive Takes (link : Link) (call : String → Exchange α) : Wire → Act α → Wire → Prop
  | received {w w' : Wire} {username password key : String}
      (hlogin : w.session.credentials = .login username password)
      (hrun : (Client.logIn link username password).run.run w = (.ok key, w')) :
      Takes link call w (.logIn (.ok key)) (w'.receive link key)
  | refused {w w' : Wire} {username password : String} {f : Fault}
      (hlogin : w.session.credentials = .login username password)
      (hrun : (Client.logIn link username password).run.run w = (.error f, w')) :
      Takes link call w (.logIn (.error f)) w'
  | forgotten {w : Wire} :
      Takes link call w .forget { w with session := w.session.clear }
  | exchanged {w w' : Wire} {shown : String} {result : Except Fault α}
      (hrun : (call shown).run.run w = (result, w')) :
      Takes link call w (.exchange shown result) w'

end Act

/-- Steps take one wire to another. -/
inductive Course {α : Type} (link : Link) (call : String → Exchange α) :
    Wire → List (Act α) → Wire → Prop
  | nil {w : Wire} : Course link call w [] w
  | cons {w w' w'' : Wire} {act : Act α} {acts : List (Act α)}
      (hstep : act.Takes link call w w') (hrest : Course link call w' acts w'') :
      Course link call w (act :: acts) w''

/-- A login leaves the credentials. -/
theorem Act.Takes.hasToken {α : Type} {link : Link} {call : String → Exchange α} {w w' : Wire}
    {result : Except Fault String} (h : (Act.logIn result).Takes link call w w') :
    w'.session.hasToken = w.session.hasToken := by
  cases h with
  | received _ hrun =>
    have htoken := congrArg Session.hasToken (Client.session_of_logIn hrun)
    exact htoken
  | refused _ hrun => exact congrArg Session.hasToken (Client.session_of_logIn hrun)

section Course

open Client

variable {α : Type} {link : Link} {call : String → Exchange α} {w w' w'' : Wire}
  {acts acts' : List (Act α)}

theorem Course.one {act : Act α} (h : act.Takes link call w w') :
    Course link call w [act] w' := .cons h .nil

theorem Course.append (h : Course link call w acts w') (h' : Course link call w' acts' w'') :
    Course link call w (acts ++ acts') w'' := by
  induction h with
  | nil => exact h'
  | cons hstep _ ih => exact .cons hstep (ih h')

/-- To show something takes no step, or a login. -/
theorem exists_course_bearer (link : Link) (call : String → Exchange α) (w : Wire) :
    (∃ shown, w.session.bearer? = some shown ∧ (bearer link).run.run w = (.ok shown, w)) ∨
    (w.session.hasToken = false ∧ ∃ result w',
      (bearer link).run.run w = (result, w') ∧ (Act.logIn result).Takes link call w w') := by
  cases hneed : w.session.needsLogin w.clock with
  | false =>
    obtain ⟨shown, hshown⟩ := Session.bearer?_of_not_needsLogin hneed
    exact .inl ⟨shown, hshown, bearer_held hneed hshown⟩
  | true =>
    obtain ⟨username, password, hlogin⟩ := Session.credentials_of_needsLogin hneed
    refine .inr ⟨Session.hasToken_of_login hlogin, ?_⟩
    rcases hrun : (logIn link username password).run.run w with ⟨f | key, w'⟩
    · exact ⟨_, _, bearer_refused hneed hlogin hrun, .refused hlogin hrun⟩
    · exact ⟨_, _, bearer_received hneed hlogin hrun, .received hlogin hrun⟩

/-- Once the key is forgotten, to show something takes a login. -/
theorem exists_logIn_cleared (link : Link) (call : String → Exchange α)
    (hno : w.session.hasToken = false) :
    ∃ result w', (bearer link).run.run { w with session := w.session.clear } = (result, w') ∧
      (Act.logIn result).Takes link call { w with session := w.session.clear } w' := by
  have hnone : w.session.clear.bearer? = none := Session.bearer?_clear hno
  rcases exists_course_bearer link call { w with session := w.session.clear } with
    ⟨shown, hshown, _⟩ | ⟨_, hlogin⟩
  · rw [hnone] at hshown
    cases hshown
  · exact hlogin

end Course

/-- What a session lets its calls do: with a fixed token, no login and one exchange; else at most
two of each. A second exchange needs that the first was refused, and that the key was then
forgotten and another one received; it is the end of the call. -/
structure Renewed {α : Type} (s : Session) (acts : List (Act α)) (result : Except Fault α) :
    Prop where
  logins : acts.countP Act.isLogIn ≤ 2
  exchanges : acts.countP Act.isExchange ≤ 2
  second {before between after : List (Act α)} {shown again : String}
    {first last : Except Fault α}
    (h : acts = before ++ .exchange shown first :: (between ++ .exchange again last :: after)) :
    (∃ status url message id, first = .error (.refused status url message id) ∧
      (status = 401 ∨ status = 403)) ∧
    between = [.forget, .logIn (.ok again)] ∧ after = [] ∧ result = last
  ends : (∃ before shown, acts = before ++ [.exchange shown result]) ∨
    ∃ before f, acts = before ++ [.logIn (.error f)] ∧ result = .error f
  token {token : String} (h : s.credentials = .token token) : acts = [.exchange token result]

/-- What a call can do once something is shown: its exchange; and if that is refused and no fixed
token was shown, a new login and the exchange again. -/
inductive Repeated {α : Type} (s : Session) (shown : String) :
    List (Act α) → Except Fault α → Prop
  | once {result : Except Fault α} : Repeated s shown [.exchange shown result] result
  | refused {f g : Fault} (hs : s.hasToken = false) (hf : Client.isRefusal f = true) :
      Repeated s shown [.exchange shown (.error f), .forget, .logIn (.error g)] (.error g)
  | again {f : Fault} {key : String} {result : Except Fault α} (hs : s.hasToken = false)
      (hf : Client.isRefusal f = true) :
      Repeated s shown [.exchange shown (.error f), .forget, .logIn (.ok key),
        .exchange key result] result

theorem eq_refused_of_isRefusal {f : Fault} (h : Client.isRefusal f = true) :
    ∃ status url message id, f = .refused status url message id ∧
      (status = 401 ∨ status = 403) := by
  unfold Client.isRefusal at h
  split at h
  · exact ⟨_, _, _, _, rfl, by simpa using h⟩
  · cases h

/-- How a call comes to show something: it is there, or a login brings it. -/
inductive Opened {α : Type} (s : Session) (shown : String) : List (Act α) → Prop
  | held (h : s.bearer? = some shown) : Opened s shown []
  | received (h : s.hasToken = false) : Opened s shown [.logIn (.ok shown)]

section Renewed
variable {α : Type} {s : Session} {shown : String} {first acts : List (Act α)}
  {result : Except Fault α}

theorem two_le_countP_isExchange (before between after : List (Act α)) (shown again : String)
    (first last : Except Fault α) :
    2 ≤ (before ++ .exchange shown first :: (between ++ .exchange again last :: after)).countP
      Act.isExchange := by
  rw [List.countP_append, List.countP_cons_of_pos rfl, List.countP_append,
    List.countP_cons_of_pos rfl]
  omega

theorem Renewed.of_refused (hs : s.hasToken = false) (f : Fault) :
    Renewed s [.logIn (.error f)] (.error f : Except Fault α) where
  logins := by show 1 ≤ 2; omega
  exchanges := by show 0 ≤ 2; omega
  second h := by
    have htwo := h ▸ two_le_countP_isExchange ..
    change 2 ≤ 0 at htwo
    omega
  ends := .inr ⟨[], f, rfl, rfl⟩
  token h := by simp [Session.hasToken, h] at hs

theorem Repeated.logins (h : Repeated s shown acts result) : acts.countP Act.isLogIn ≤ 1 := by
  cases h with
  | once => show 0 ≤ 1; omega
  | refused => show 1 ≤ 1; omega
  | again => show 1 ≤ 1; omega

theorem Repeated.exchanges (h : Repeated s shown acts result) :
    acts.countP Act.isExchange ≤ 2 := by
  cases h with
  | once => show 1 ≤ 2; omega
  | refused => show 1 ≤ 2; omega
  | again => show 2 ≤ 2; omega

theorem Repeated.ends (h : Repeated s shown acts result) :
    (∃ before shown, acts = before ++ [.exchange shown result]) ∨
      ∃ before f, acts = before ++ [.logIn (.error f)] ∧ result = .error f := by
  cases h with
  | once => exact .inl ⟨[], shown, rfl⟩
  | @refused f g => exact .inr ⟨[.exchange shown (.error f), .forget], g, rfl, rfl⟩
  | @again f key => exact .inl ⟨[.exchange shown (.error f), .forget, .logIn (.ok key)], key, rfl⟩

theorem Repeated.second (h : Repeated s shown acts result) {before between after : List (Act α)}
    {shown again : String} {first last : Except Fault α}
    (hacts : acts = before ++ .exchange shown first :: (between ++ .exchange again last :: after)) :
    (∃ status url message id, first = .error (.refused status url message id) ∧
      (status = 401 ∨ status = 403)) ∧
    between = [.forget, .logIn (.ok again)] ∧ after = [] ∧ result = last := by
  have htwo := two_le_countP_isExchange before between after shown again first last
  rw [← hacts] at htwo
  cases h with
  | once =>
    change 2 ≤ 1 at htwo
    omega
  | refused =>
    change 2 ≤ 1 at htwo
    omega
  | again _ hf =>
    obtain ⟨status, url, message, id, rfl, hstatus⟩ := eq_refused_of_isRefusal hf
    cases before with
    | cons act before =>
      -- one exchange is left after the first step
      have hone := two_le_countP_isExchange before between after shown again first last
      rw [List.cons_append, List.cons.injEq] at hacts
      rw [← hacts.2] at hone
      change 2 ≤ 1 at hone
      omega
    | nil =>
      rcases between with _ | ⟨_, _ | ⟨_, _ | ⟨_, between⟩⟩⟩
      · cases hacts
      · cases hacts
      · cases hacts
        exact ⟨⟨status, url, message, id, rfl, hstatus⟩, rfl, rfl, rfl⟩
      · simp at hacts

/-- A login at the start is no exchange. -/
theorem Opened.second (h : Opened s shown first) {before after : List (Act α)} {shown' : String}
    {result' : Except Fault α}
    (hacts : first ++ acts = before ++ .exchange shown' result' :: after) :
    ∃ before', acts = before' ++ .exchange shown' result' :: after := by
  cases h with
  | held => exact ⟨before, hacts⟩
  | received =>
    rcases List.cons_eq_append_iff.1 hacts with ⟨_, hcons⟩ | ⟨before', _, hrest⟩
    · cases hcons
    · exact ⟨before', hrest⟩

theorem Opened.token {token : String} (h : Opened s shown first)
    (hacts : Repeated s shown acts result) (htoken : s.credentials = .token token) :
    first ++ acts = [.exchange token result] := by
  have hs : s.hasToken = true := by
    unfold Session.hasToken
    rw [htoken]
  have hshown : s.bearer? = some token := by
    unfold Session.bearer?
    rw [htoken]
  cases h with
  | received hno => simp [hs] at hno
  | held hheld =>
    obtain rfl : shown = token := by simpa [hshown] using hheld.symm
    cases hacts with
    | once => rfl
    | refused hno => simp [hs] at hno
    | again hno => simp [hs] at hno

theorem Opened.renewed (h : Opened s shown first) (hacts : Repeated s shown acts result) :
    Renewed s (first ++ acts) result where
  logins := by
    have hrest := hacts.logins
    rw [List.countP_append]
    cases h with
    | held => show 0 + _ ≤ 2; omega
    | received => show 1 + _ ≤ 2; omega
  exchanges := by
    have hrest := hacts.exchanges
    rw [List.countP_append]
    cases h with
    | held => show 0 + _ ≤ 2; omega
    | received => show 0 + _ ≤ 2; omega
  second hsplit := by
    obtain ⟨before', hrest⟩ := h.second hsplit
    exact hacts.second hrest
  ends := by
    rcases hacts.ends with ⟨before, shown', rfl⟩ | ⟨before, f, rfl, rfl⟩
    · exact .inl ⟨first ++ before, shown', (List.append_assoc ..).symm⟩
    · exact .inr ⟨first ++ before, f, (List.append_assoc ..).symm, rfl⟩
  token htoken := h.token hacts htoken

end Renewed

namespace Client
variable {α : Type} (link : Link) {call : String → Exchange α}

/-- What follows once something is shown. -/
theorem exists_course_repeated
    (hkeeps : ∀ shown w, ((call shown).run.run w).2.session = w.session) (shown : String)
    (w : Wire) {s : Session} (hs : w.session.hasToken = s.hasToken) :
    ∃ acts result w', (tryCatch (call shown) fun f => do
        if isRefusal f && !(← get).session.hasToken then
          forget
          call (← bearer link)
        else throw f : Exchange α).run.run w = (result, w') ∧
      Course link call w acts w' ∧ Repeated s shown acts result := by
  have hsession := hkeeps shown w
  rcases hrun : (call shown).run.run w with ⟨f | a, w₁⟩
  · rw [hrun] at hsession
    have htoken : w₁.session.hasToken = s.hasToken := (congrArg _ hsession).trans hs
    have hfirst : Act.Takes link call w (.exchange shown (.error f)) w₁ := .exchanged hrun
    rw [Exchange.run_tryCatch_of_error hrun, Exchange.run_get_bind, htoken]
    cases hf : isRefusal f with
    | false => exact ⟨_, _, _, rfl, .one hfirst, .once⟩
    | true =>
      cases hno : s.hasToken with
      | true => exact ⟨_, _, _, rfl, .one hfirst, .once⟩
      | false =>
        rw [hno] at htoken
        -- refused without a fixed token: the key is forgotten, so that a login is needed
        have hforgotten : Act.Takes link call w₁ .forget
            { w₁ with session := w₁.session.clear } := .forgotten
        rw [Bool.not_false, Bool.and_true, if_pos rfl, Exchange.run_bind_of_ok (x := forget) rfl]
        obtain ⟨result, w₂, hbearer, hlogin⟩ := exists_logIn_cleared link call htoken
        have hcourse := (Course.one hfirst).append ((Course.one hforgotten).append (.one hlogin))
        cases result with
        | error g =>
          rw [Exchange.run_bind_of_error hbearer]
          exact ⟨_, _, _, rfl, hcourse, .refused hno hf⟩
        | ok key =>
          rw [Exchange.run_bind_of_ok hbearer]
          exact ⟨_, _, _, rfl, hcourse.append (.one (.exchanged rfl)), .again hno hf⟩
  · have hfirst : Act.Takes link call w (.exchange shown (.ok a)) w₁ := .exchanged hrun
    rw [Exchange.run_tryCatch_of_ok hrun]
    exact ⟨_, _, _, rfl, .one hfirst, .once⟩

/-- Every call takes a course that its session lets it take. -/
theorem exists_course_renewing
    (hkeeps : ∀ shown w, ((call shown).run.run w).2.session = w.session) (w : Wire) :
    ∃ acts, Course link call w acts ((renewing link call).run.run w).2 ∧
      Renewed w.session acts ((renewing link call).run.run w).1 := by
  unfold renewing
  rcases exists_course_bearer link call w with
    ⟨shown, hshown, hbearer⟩ | ⟨hno, result, w₁, hbearer, hlogin⟩
  · obtain ⟨acts, result, w', hrun, hcourse, hacts⟩ :=
      exists_course_repeated link hkeeps shown w rfl
    rw [Exchange.run_bind_of_ok hbearer, hrun]
    exact ⟨acts, hcourse, (Opened.held hshown).renewed hacts⟩
  · cases result with
    | error f =>
      rw [Exchange.run_bind_of_error hbearer]
      exact ⟨_, .one hlogin, .of_refused hno f⟩
    | ok shown =>
      have hs : w₁.session.hasToken = w.session.hasToken := hlogin.hasToken
      obtain ⟨acts, result, w', hrun, hcourse, hacts⟩ :=
        exists_course_repeated link hkeeps shown w₁ hs
      rw [Exchange.run_bind_of_ok hbearer, hrun]
      exact ⟨_, (Course.one hlogin).append hcourse, (Opened.received hno).renewed hacts⟩

end Client

/-! ## What a course costs -/

section Metered
variable {m : Wire → Nat} {a b : Nat} (h : Meters m a b) {link : Link}

include h

theorem Client.cost_logIn (username password : String) :
    Cost m (logIn link username password).run ((link.maxRetries + 1) * (a + b)) := by
  have hsend := Exchange.cost_send h link ⟨"/services/auth/login", .post⟩
    (.login link.baseUrl username password)
  refine (hsend.orElseFree fun f => .throw _).thenFree fun r => ?_
  have hparsed : Cost m (Exchange.parsed "login" Json.Reader.value r).run 0 := by
    rw [Exchange.parsed_run]
    exact .pure _
  refine hparsed.thenFree fun v => ?_
  split
  · exact .ok _
  · exact .throw _

theorem Operation.cost_exchange (op : Operation) (shown : String) :
    Cost m (op.exchange link shown).run ((link.maxRetries + 1) * (a + b)) :=
  Exchange.cost_send h link ⟨op.endpoint, op.method⟩ (op.draft link.baseUrl shown)

variable {α : Type} {call : String → Exchange α} {w w' : Wire} {n : Nat}
  (hlogin : ∀ username password, Cost m (Client.logIn link username password).run n)
  (hcall : ∀ shown, Cost m (call shown).run n)

include hlogin hcall

theorem Act.Takes.cost {act : Act α} (hact : act.Takes link call w w') :
    m w' ≤ m w + (List.countP Act.isLogIn [act] + List.countP Act.isExchange [act]) * n := by
  cases hact with
  | @received w' username password key _ hrun =>
    have hcost := (hlogin username password).le_of_run hrun
    have hframe : m (w'.receive link key) = m w' := h.frame w' w'.clock _
    show m (w'.receive link key) ≤ m w + (1 + 0) * n
    omega
  | @refused _ username password f _ hrun =>
    have hcost := (hlogin username password).le_of_run hrun
    show m w' ≤ m w + (1 + 0) * n
    omega
  | forgotten =>
    have hframe := h.frame w w.clock w.session.clear
    show m { w with session := w.session.clear } ≤ m w + (0 + 0) * n
    omega
  | @exchanged _ shown result hrun =>
    have hcost := (hcall shown).le_of_run hrun
    show m w' ≤ m w + (0 + 1) * n
    omega

theorem Course.cost {acts : List (Act α)} (hcourse : Course link call w acts w') :
    m w' ≤ m w + (acts.countP Act.isLogIn + acts.countP Act.isExchange) * n := by
  induction hcourse with
  | nil => exact Nat.le_add_right _ _
  | @cons w w₁ w' act acts hstep _ ih =>
    have hfirst := hstep.cost h hlogin hcall
    have hsplit : ∀ p : Act α → Bool, (act :: acts).countP p = [act].countP p + acts.countP p := by
      intro p
      rw [← List.countP_append, List.singleton_append]
    rw [hsplit, hsplit, Nat.add_add_add_comm, Nat.add_mul]
    omega

end Metered

/-- A course that a session allows costs at most four requests with all their retries, and one of
them with a fixed token. -/
theorem Renewed.cost {m : Wire → Nat} {a b : Nat} (h : Meters m a b) {link : Link}
    {op : Operation} {w w' : Wire} {acts : List (Act op.Result)}
    {result : Except Fault op.Result} (hacts : Renewed w.session acts result)
    (hcourse : Course link (op.exchange link) w acts w') :
    m w' ≤ m w + 4 * ((link.maxRetries + 1) * (a + b)) ∧
      (w.session.hasToken = true → m w' ≤ m w + (link.maxRetries + 1) * (a + b)) := by
  have hcost := hcourse.cost h (Client.cost_logIn h) (op.cost_exchange h)
  constructor
  · have hcount : acts.countP Act.isLogIn + acts.countP Act.isExchange ≤ 4 :=
      Nat.add_le_add hacts.logins hacts.exchanges
    exact Nat.le_trans hcost (Nat.add_le_add_left (Nat.mul_le_mul_right _ hcount) _)
  · intro htoken
    obtain ⟨token, htoken⟩ : ∃ token, w.session.credentials = .token token := by
      unfold Session.hasToken at htoken
      split at htoken
      · next token hcredentials => exact ⟨token, hcredentials⟩
      · cases htoken
    rw [hacts.token htoken] at hcost
    have hone : (0 + 1) * ((link.maxRetries + 1) * (a + b)) = (link.maxRetries + 1) * (a + b) := by
      rw [Nat.zero_add, Nat.one_mul]
    exact Nat.le_trans hcost (Nat.le_of_eq (congrArg _ hone))

theorem Operation.exists_course (link : Link) (op : Operation) (w : Wire) :
    ∃ acts, Course link (op.exchange link) w acts ((op.perform link).run.run w).2 ∧
      Renewed w.session acts ((op.perform link).run.run w).1 := by
  rw [op.perform_eq]
  refine Client.exists_course_renewing link (fun shown w => ?_) w
  obtain ⟨_, _, hsession, _⟩ := op.hears_exchange link shown w
  exact hsession

theorem Client.logInAnew_of_hasToken (link : Link) {w : Wire} (h : w.session.hasToken = true) :
    (logInAnew link).run.run w = (.ok (), w) := by
  unfold logInAnew
  rw [Exchange.run_get_bind, h, if_pos rfl]
  rfl

/-- A login is all that is done to log in anew, if there is no fixed token. -/
theorem Client.exists_course_logInAnew {α : Type} (link : Link) (call : String → Exchange α)
    {w : Wire} (hno : w.session.hasToken = false) :
    ∃ result, ((logInAnew link).run.run w).1 = result.map (fun _ => ()) ∧
      Course link call w [.forget, .logIn result] ((logInAnew link).run.run w).2 := by
  have hforgotten : Act.Takes link call w .forget { w with session := w.session.clear } :=
    .forgotten
  obtain ⟨result, w', hbearer, hlogin⟩ := exists_logIn_cleared link call hno
  unfold logInAnew
  rw [Exchange.run_get_bind, hno, if_neg Bool.false_ne_true,
    Exchange.run_bind_of_ok (x := forget) rfl, Exchange.discard_eq_mk, ExceptT.run_mk,
    StateT.run_map, hbearer]
  exact ⟨result, rfl, (Course.one hforgotten).append (.one hlogin)⟩

/-! ## The bounds -/

/-- What is spent at most where `n` requests are made with all their retries: in requests, in
attempts, and on a network in single requests. -/
structure Within (link : Link) (n : Nat) (w w' : Wire) : Prop where
  sent : w'.sent.length ≤ w.sent.length + n * (link.maxRetries + 1)
  tries : w'.tries ≤ w.tries + n * (link.maxRetries + 1)
  trail (net : Network) (limit : Duration) (hlink : link.server = net.server limit) :
    (net.trail limit w'.sent).length ≤
      (net.trail limit w.sent).length + n * (6 * (link.maxRetries + 1))

theorem Within.of_meters {link : Link} {n : Nat} {w w' : Wire}
    (h : ∀ {m : Wire → Nat} {a b : Nat}, Meters m a b →
      m w' ≤ m w + n * ((link.maxRetries + 1) * (a + b))) : Within link n w w' where
  sent := by
    have hsent := h meters_sent
    rwa [Nat.zero_add, Nat.mul_one] at hsent
  tries := by
    have htries := h meters_tries
    rwa [Nat.add_zero, Nat.mul_one] at htries
  trail net limit _ := by
    have htrail := h (net.meters_trail limit)
    rwa [Nat.zero_add, Nat.mul_comm (link.maxRetries + 1)] at htrail

/-- Whatever the server answers, a call takes a course that its session allows, and what it spends
is within that of four requests, or of one with a fixed token. To log in anew is one login, or
nothing at all with a fixed token. -/
theorem perform_renews (link : Link) (op : Operation) (w : Wire) :
    let run := (op.perform link).run.run w
    let login := (Client.logInAnew link).run.run w
    (∃ acts, Course link (op.exchange link) w acts run.2 ∧ Renewed w.session acts run.1) ∧
    Within link 4 w run.2 ∧
    (w.session.hasToken = true → Within link 1 w run.2 ∧ login = (.ok (), w)) ∧
    (w.session.hasToken = false → ∃ result, login.1 = result.map (fun _ => ()) ∧
      Course link (op.exchange link) w [.forget, .logIn result] login.2 ∧
      Within link 1 w login.2) := by
  intro run login
  obtain ⟨acts, hcourse, hacts⟩ := op.exists_course link w
  refine ⟨⟨acts, hcourse, hacts⟩, .of_meters fun h => (hacts.cost h hcourse).1,
    fun htoken => ⟨?_, ?_⟩, fun hno => ?_⟩
  · refine .of_meters fun h => ?_
    rw [Nat.one_mul]
    exact (hacts.cost h hcourse).2 htoken
  · exact Client.logInAnew_of_hasToken link htoken
  · obtain ⟨result, hresult, hlogin⟩ :=
      Client.exists_course_logInAnew link (op.exchange link) hno
    exact ⟨result, hresult, hlogin, .of_meters fun h =>
      hlogin.cost h (Client.cost_logIn h) (op.cost_exchange h)⟩

/-- A server that brings a key with every login, and refuses the first request that shows one. -/
def Server.refusingOnce : Server := fun past r =>
  if r.authorization = none then ⟨.response 200 none "\x7b\"sessionKey\":\"k\"\x7d", ⟨1⟩, none⟩
  else if past.length = 1 then ⟨.response 401 none "", ⟨1⟩, none⟩
  else ⟨.response 200 none "", ⟨1⟩, none⟩

/-- Four requests are sent indeed. -/
example :
    let link : Link := ⟨"https://h", 0, .ofSeconds 120, .ofSeconds 60, false, .refusingOnce⟩
    (((Operation.updateMacro "nobody" "app" "m" "d").perform link).run.run
      (.start (.login "u" "p"))).2.sent.length = 4 := by
  decide +kernel

/-- A network that redirects every request to itself. -/
def Network.circling : Network := fun _ r => (.redirect r, ⟨1⟩)

/-- A connection to that network, without retries. -/
def Link.circling : Link :=
  Config.Connection.over ⟨"https://h", false, .ofSeconds 30, 0, 60, 3600⟩ .circling

/-- Redirections bring single requests of their own: with a fixed token and no retries, one call
makes six of them. To log in anew is a call that makes none. -/
theorem redirections_exceed_attempts :
    let run := (Operation.serverInfo.perform .circling).run.run (.start (.token "t"))
    Link.circling.maxRetries + 1 = 1 ∧ run.2.sent.length = 1 ∧
      (Network.circling.trail (.ofSeconds 30) run.2.sent).length = 6 ∧
      ((Client.logInAnew .circling).run.run (.start (.token "t"))).2.sent = [] := by
  decide +kernel

/-- There the six single requests are all that is made, and to log in anew changes nothing. -/
theorem perform_renews_circling :
    Link.circling.server = Network.circling.server (.ofSeconds 30) ∧
      (Wire.start (.token "t")).session.hasToken = true ∧
      (Network.circling.trail (.ofSeconds 30)
        ((Operation.serverInfo.perform .circling).run.run (.start (.token "t"))).2.sent).length ≤ 6 ∧
      (Client.logInAnew .circling).run.run (.start (.token "t")) =
        (.ok (), .start (.token "t")) := by
  obtain ⟨_, _, htoken, _⟩ := perform_renews .circling .serverInfo (.start (.token "t"))
  obtain ⟨hwithin, hlogin⟩ := htoken rfl
  exact ⟨rfl, rfl, hwithin.trail .circling (.ofSeconds 30) rfl, hlogin⟩

end AccelForm.Rest
