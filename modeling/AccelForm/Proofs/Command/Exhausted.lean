import AccelForm.Command.ExitCode
import AccelForm.Proofs.Rest.Attempts
import AccelForm.Proofs.Rest.Bearer
import AccelForm.Proofs.Rest.Operation
/-
  The exit code of a call that is put off to the end

  A server can put off every attempt with a request. Whichever request of a
  call this is, it is the last one (`Asks`), and the fault of the call is what
  is left of the last status (`Remainder`). Without retries that is the status
  itself. With retries it is only their number: whether the last status was
  that of a rate limit cannot be told from it, and the exit code does not.
-/

namespace AccelForm.Rest

/-! ## A request that is put off to the end -/

/-- Whether the server puts off every attempt with a request, and with which statuses. -/
def Link.PutsOff (link : Link) (past : List Request) (r : Request) (statuses : Nat → Nat) : Prop :=
  ∀ i ≤ link.maxRetries, isTransientStatus (statuses i) = true ∧ ∃ requestId body,
    (link.server.answers past r i).reply = .response (statuses i) requestId body

/-- The fault that is left of a status after the last one of some retries. -/
inductive Remainder (retries status : Nat) : Fault → Prop
  | exceeded (h : 0 < retries) : Remainder retries status (.retriesExceeded (retries + 1))
  | refused {url message : String} {requestId : Option String} (h : retries = 0) :
      Remainder retries status (.refused status url message requestId)

theorem mem_of_isTransientStatus {status : Nat} (h : isTransientStatus status = true) :
    status = 429 ∨ status = 502 ∨ status = 503 ∨ status = 504 := by
  simpa [isTransientStatus, transientStatuses] using h

theorem Trial.exists_remainder {t : Trial} {a : Response} (h : t.outcome = .ok a)
    (hstatus : isTransientStatus a.status = true) (retries : Nat) :
    ∃ f, t.ending retries = .error f ∧ Remainder retries a.status f := by
  have hput : t.isPutOff = true := (isPutOff_of_ok h).trans hstatus
  cases retries with
  | zero =>
    obtain ⟨b, hb, _, hending⟩ := ending_zero_of_isPutOff hput
    obtain rfl : b = a := Except.ok.inj (hb.symm.trans h)
    exact ⟨_, hending, .refused rfl⟩
  | succ n => exact ⟨_, ending_of_isPutOff hput (Nat.succ_pos n), .exceeded (Nat.succ_pos n)⟩

/-- A request that is put off to the end is sent as often as it can be. -/
theorem Exchange.send_of_putsOff {link : Link} (label : Label) {d : Draft} {r : Request}
    (hr : d.request? = some r) {w : Wire} {statuses : Nat → Nat}
    (h : link.PutsOff w.sent r statuses) :
    ∃ f w', (send link label d).run.run w = (.error f, w') ∧
      Remainder link.maxRetries (statuses link.maxRetries) f ∧
      w'.sent = w.sent ++ List.replicate (link.maxRetries + 1) r := by
  have hall : ∀ i ≤ link.maxRetries, (link.server.answers w.sent r i).reply.isPutOff = true := by
    intro i hi
    obtain ⟨hstatus, _, _, hreply⟩ := h i hi
    rw [hreply]
    exact hstatus
  obtain ⟨_, hresult, hsent⟩ := send_of_all_putOff link label hr w hall
  obtain ⟨hstatus, requestId, body, hlast⟩ := h link.maxRetries (Nat.le_refl _)
  have houtcome : (Trial.ofAnswer r (link.server.answers w.sent r link.maxRetries)).outcome = _ :=
    Answer.outcome_of_response hlast r
  obtain ⟨f, hending, hf⟩ := Trial.exists_remainder houtcome hstatus link.maxRetries
  exact ⟨f, _, Prod.ext (hresult.trans hending) rfl, hf, hsent⟩

namespace Remainder
variable {retries status : Nat} {f : Fault} (h : Remainder retries status f)
  (hstatus : isTransientStatus status = true)

include h hstatus

theorem isRefusal : Client.isRefusal f = false := by
  cases h with
  | exceeded => rfl
  | refused => rcases mem_of_isTransientStatus hstatus with rfl | rfl | rfl | rfl <;> rfl

theorem refusedLogin (username : String) : Client.refusedLogin username f = f := by
  cases h with
  | exceeded => rfl
  | refused => rcases mem_of_isTransientStatus hstatus with rfl | rfl | rfl | rfl <;> rfl

theorem unknownPassword (realm name : String) : Client.unknownPassword realm name f = f := by
  cases h with
  | exceeded => rfl
  | refused => rcases mem_of_isTransientStatus hstatus with rfl | rfl | rfl | rfl <;> rfl

/-- No operation makes anything else of it. -/
theorem outcome (op : Operation) : op.outcome (.error f) = .error f := by
  cases op with
  | passwords app realm name => exact congrArg Except.error (h.unknownPassword hstatus realm name)
  | deletePassword app realm name =>
    exact congrArg Except.error (h.unknownPassword hstatus realm name)
  | _ => rfl

/-- Its exit code knows of a rate limit only without retries. -/
theorem ofFault : ExitCode.ofFault f =
    if retries = 0 ∧ status = 429 then .rateLimited else .unavailable := by
  cases h with
  | exceeded hpos => exact (if_neg fun hzero => absurd hzero.1 (Nat.ne_of_gt hpos)).symm
  | refused hzero =>
    subst hzero
    rcases mem_of_isTransientStatus hstatus with rfl | rfl | rfl | rfl <;> rfl

end Remainder

/-! ## The requests of a call -/

def Label.login : Label := ⟨"/services/auth/login", .post⟩

namespace Operation
variable (link : Link) (op : Operation)

/-- A call begins with a login if one is needed; once something is shown, with its own request. -/
inductive Begins (w : Wire) : Label → Draft → Wire → Prop
  | logIn {username password : String} (hneeded : w.session.needsLogin w.clock = true)
      (hlogin : w.session.credentials = .login username password) :
      Begins w .login (.login link.baseUrl username password) w
  | own {shown : String} {w' : Wire}
      (hshown : (Client.bearer link).run.run w = (.ok shown, w')) :
      Begins w ⟨op.endpoint, op.method⟩ (op.draft link.baseUrl shown) w'

/-- What a call shows is refused, and the key is forgotten. -/
inductive Refused (w : Wire) : Wire → Prop
  | intro {shown : String} {w₁ w₂ : Wire} {f : Fault}
      (hshown : (Client.bearer link).run.run w = (.ok shown, w₁))
      (hexchange : (op.exchange link shown).run.run w₁ = (.error f, w₂))
      (hrefusal : Client.isRefusal f = true) (htoken : w₂.session.hasToken = false) :
      Refused w { w₂ with session := w₂.session.clear }

end Operation

inductive Call where
  | logIn
  | make (op : Operation)

def Call.perform (link : Link) : Call → Exchange Unit
  | logIn => Client.logInAnew link
  | make op => discard (op.perform link)

/-- The requests that a call asks with, and the wires on which it begins to. -/
inductive Call.Asks (link : Link) (w : Wire) : Call → Label → Draft → Wire → Prop
  | logIn {username password : String}
      (hlogin : w.session.credentials = .login username password) :
      Asks link w .logIn .login (.login link.baseUrl username password)
        { w with session := w.session.clear }
  | first {op : Operation} {label : Label} {d : Draft} {w' : Wire}
      (h : op.Begins link w label d w') : Asks link w (.make op) label d w'
  | again {op : Operation} {label : Label} {d : Draft} {w₁ w' : Wire}
      (hrefused : op.Refused link w w₁) (h : op.Begins link w₁ label d w') :
      Asks link w (.make op) label d w'

/-! ## The request is the last one of the call -/

section Last
variable {link : Link} {w w' w'' : Wire} {label : Label} {d : Draft} {f : Fault}
  {retries status : Nat}

theorem Session.needsLogin_clear {s : Session} (h : s.hasToken = false) (now : Nat) :
    s.clear.needsLogin now = true := by
  have htoken : s.clear.hasToken = false := h
  unfold needsLogin isExpired
  rw [htoken]
  rfl

theorem Client.logIn_of_error {username password : String}
    (hrun : (Exchange.send link .login (.login link.baseUrl username password)).run.run w =
      (.error f, w')) (hf : refusedLogin username f = f) :
    (logIn link username password).run.run w = (.error f, w') := by
  have hmapped : (mapFault (refusedLogin username) (Exchange.send link .login
      (.login link.baseUrl username password))).run.run w = (.error f, w') := by
    unfold mapFault
    rw [Exchange.run_tryCatch_of_error hrun, hf]
    rfl
  exact Exchange.run_bind_of_error hmapped

theorem Operation.exchange_of_error {op : Operation} {shown : String}
    (hrun : (Exchange.send link ⟨op.endpoint, op.method⟩ (op.draft link.baseUrl shown)).run.run w =
      (.error f, w')) (hf : op.outcome (.error f) = .error f) :
    (op.exchange link shown).run.run w = (.error f, w') := by
  unfold exchange
  rw [ExceptT.run_mk, StateT.run_map, hrun, ← hf]
  rfl

variable (hrun : (Exchange.send link label d).run.run w' = (.error f, w''))
  (hf : Remainder retries status f) (hstatus : isTransientStatus status = true)

include hrun hf hstatus

/-- A call that begins with the request ends with it, whatever it does with a success. -/
theorem Operation.Begins.run {op : Operation} (h : op.Begins link w label d w')
    {call : String → Exchange op.Result}
    (hcall : ∀ shown w₁, (op.exchange link shown).run.run w₁ = (.error f, w'') →
      (call shown).run.run w₁ = (.error f, w'')) :
    (Client.bearer link >>= call).run.run w = (.error f, w'') := by
  cases h with
  | logIn hneeded hlogin =>
    exact Exchange.run_bind_of_error (Client.bearer_refused hneeded hlogin
      (Client.logIn_of_error hrun (hf.refusedLogin hstatus _)))
  | own hshown =>
    rw [Exchange.run_bind_of_ok hshown]
    exact hcall _ _ (op.exchange_of_error hrun (hf.outcome hstatus op))

/-- The fault of the request is that of the call, and nothing is sent after it. -/
theorem Call.Asks.run {call : Call} (h : call.Asks link w label d w') :
    (call.perform link).run.run w = (.error f, w'') := by
  cases h with
  | @logIn username password hlogin =>
    have hno := Session.hasToken_of_login hlogin
    have hcleared : ({ w with session := w.session.clear } : Wire).session.credentials =
        .login username password := hlogin
    have hbearer := Client.bearer_refused (Session.needsLogin_clear hno w.clock) hcleared
      (Client.logIn_of_error hrun (hf.refusedLogin hstatus _))
    show (Client.logInAnew link).run.run w = _
    unfold Client.logInAnew
    rw [Exchange.run_get_bind, hno, if_neg Bool.false_ne_true,
      Exchange.run_bind_of_ok (x := Client.forget) rfl]
    exact Exchange.run_bind_of_error hbearer
  | @first op _ _ _ h =>
    refine Exchange.run_bind_of_error ?_
    rw [op.perform_eq]
    refine h.run hrun hf hstatus fun shown w₁ hexchange => ?_
    rw [Exchange.run_tryCatch_of_error hexchange, hf.isRefusal hstatus]
    rfl
  | @again op _ _ w₁ _ hrefused h =>
    refine Exchange.run_bind_of_error ?_
    have hagain : (Client.bearer link >>= op.exchange link).run.run w₁ = (.error f, w'') :=
      h.run hrun hf hstatus fun _ _ => id
    cases hrefused with
    | intro hshown hexchange hrefusal htoken =>
      rw [op.perform_eq]
      unfold Client.renewing
      rw [Exchange.run_bind_of_ok hshown, Exchange.run_tryCatch_of_error hexchange,
        Exchange.run_get_bind, hrefusal, htoken, Bool.not_false, Bool.and_true, if_pos rfl,
        Exchange.run_bind_of_ok (x := Client.forget) rfl]
      exact hagain

end Last

/-- Where the server puts off every attempt with a request of a call, the call ends with it, sent
as often as it can be; and the exit code is that of the last status if there are no retries or that
status is none of a rate limit. A rate limit that outlasts the retries counts as unavailable. -/
theorem exitCode_of_putsOff {link : Link} {call : Call} {w w' : Wire} {label : Label} {d : Draft}
    {r : Request} {statuses : Nat → Nat} (hasks : call.Asks link w label d w')
    (hr : d.request? = some r) (hput : link.PutsOff w'.sent r statuses) :
    ∃ f, ((call.perform link).run.run w).1 = .error f ∧
      ((call.perform link).run.run w).2.sent =
        w'.sent ++ List.replicate (link.maxRetries + 1) r ∧
      (link.maxRetries = 0 ∨ statuses link.maxRetries ≠ 429 →
        ExitCode.ofFault f =
          if statuses link.maxRetries = 429 then .rateLimited else .unavailable) ∧
      (0 < link.maxRetries → statuses link.maxRetries = 429 →
        ExitCode.ofFault f = .unavailable) := by
  obtain ⟨f, w'', hrun, hf, hsent⟩ := Exchange.send_of_putsOff label hr hput
  have hstatus := (hput link.maxRetries (Nat.le_refl _)).1
  have hcode := hf.ofFault hstatus
  rw [hasks.run hrun hf hstatus]
  refine ⟨f, rfl, hsent, fun h => hcode.trans ?_, fun hpos _ => hcode.trans ?_⟩
  · rcases h with hzero | hother
    · simp only [hzero, true_and]
    · rw [if_neg fun h => hother h.2, if_neg hother]
  · exact if_neg fun h => Nat.ne_of_gt hpos h.1

/-- A link to a server that answers everything with the status of a rate limit. -/
def limitedLink (retries : Nat) : Link :=
  ⟨"https://h", retries, .ofSeconds 120, .ofSeconds 60, false,
    .replaying fun _ => .response 429 none "slow down"⟩

def tagsDraft : Draft := Operation.tags.draft "https://h" "t"

def tagsRequest : Request :=
  ⟨.get, ⟨"https", none, .domain "h", none, "/services/search/tags",
    some "output_mode=json&count=-1", none⟩, some "Bearer t", []⟩

theorem asks_limitedLink (retries : Nat) :
    (Call.make .tags).Asks (limitedLink retries) (.start (.token "t"))
      ⟨"/services/search/tags", .get⟩ tagsDraft (.start (.token "t")) :=
  .first (.own (Client.bearer_held rfl rfl))

theorem putsOff_limitedLink (retries : Nat) (past : List Request) (r : Request) :
    (limitedLink retries).PutsOff past r fun _ => 429 :=
  fun _ _ => ⟨rfl, none, "slow down", rfl⟩

/-- Without retries, a rate limit is told by the exit code. -/
theorem exitCode_of_putsOff_once :
    (Call.make .tags).Asks (limitedLink 0) (.start (.token "t")) ⟨"/services/search/tags", .get⟩
      tagsDraft (.start (.token "t")) ∧
    tagsDraft.request? = some tagsRequest ∧
    (limitedLink 0).PutsOff (Wire.start (.token "t")).sent tagsRequest (fun _ => 429) ∧
    ∃ f, (((Call.make .tags).perform (limitedLink 0)).run.run (.start (.token "t"))).1 = .error f ∧
      ExitCode.ofFault f = .rateLimited := by
  have hr : tagsDraft.request? = some tagsRequest := by decide +kernel
  have hasks := asks_limitedLink 0
  have hput := putsOff_limitedLink 0 (Wire.start (.token "t")).sent tagsRequest
  obtain ⟨f, hresult, _, hcode, _⟩ := exitCode_of_putsOff hasks hr hput
  exact ⟨hasks, hr, hput, f, hresult, hcode (.inl rfl)⟩

/-- With a retry, the same rate limit has the exit code of a service that is unavailable. -/
theorem rate_limit_counts_as_unavailable :
    (Call.make .tags).Asks (limitedLink 1) (.start (.token "t")) ⟨"/services/search/tags", .get⟩
      tagsDraft (.start (.token "t")) ∧
    tagsDraft.request? = some tagsRequest ∧
    (limitedLink 1).PutsOff (Wire.start (.token "t")).sent tagsRequest (fun _ => 429) ∧
    (((Call.make .tags).perform (limitedLink 1)).run.run (.start (.token "t"))).1 =
      .error (.retriesExceeded 2) ∧
    ExitCode.ofFault (.retriesExceeded 2) = .unavailable ∧
    ExitCode.ofStatus 429 = .rateLimited := by
  have hr : tagsDraft.request? = some tagsRequest := by decide +kernel
  have hasks := asks_limitedLink 1
  have hput := putsOff_limitedLink 1 (Wire.start (.token "t")).sent tagsRequest
  obtain ⟨f, w'', hrun, hf, _⟩ :=
    Exchange.send_of_putsOff ⟨"/services/search/tags", .get⟩ hr hput
  refine ⟨hasks, hr, hput, ?_, rfl, rfl⟩
  rw [hasks.run hrun hf rfl]
  cases hf with
  | exceeded => rfl
  | refused hzero => cases hzero

end AccelForm.Rest
