import AccelForm.Proofs.Rest.Calls
import AccelForm.Proofs.Rest.Grant
import AccelForm.Proofs.Rest.Operation
/-
  What a call hears

  `Hears server J x` says of a step that it leaves the session as it is, that
  it does not turn the clock back, and that its outcome fits what it sent and
  what the server answered to that. Sending a request is such a step: a success
  is the last answer and no grant came before it, and a refusal of what was
  shown is among the answers.
-/

namespace AccelForm.Rest

/-- The requests that a server was sent next with its answers, after what it had been sent
before. -/
def heard (server : Server) : List Request → List Request → List (Request × Answer)
  | _, [] => []
  | past, r :: next => (r, server past r) :: heard server (past ++ [r]) next

theorem heard_append (server : Server) (past l l' : List Request) :
    heard server past (l ++ l') = heard server past l ++ heard server (past ++ l) l' := by
  induction l generalizing past with
  | nil => simp [heard]
  | cons r l ih => simp [heard, ih]

theorem map_fst_heard (server : Server) (past l : List Request) :
    (heard server past l).map (·.1) = l := by
  induction l generalizing past with
  | nil => rfl
  | cons r l ih => simp [heard, ih]

theorem exists_past_of_mem_heard {server : Server} {past l : List Request} {x : Request × Answer}
    (h : x ∈ heard server past l) : ∃ past', x.2 = server past' x.1 := by
  induction l generalizing past with
  | nil => cases h
  | cons r l ih =>
    rcases List.mem_cons.1 h with rfl | h
    · exact ⟨past, rfl⟩
    · exact ih h

/-- Whether an answer refuses what was shown. -/
def Answer.IsRefusal (a : Answer) : Prop :=
  ∃ status requestId body, a.reply = .response status requestId body ∧
    (status = 401 ∨ status = 403)

/-- A step that leaves the session, does not turn the clock back, and whose outcome fits what it
sent and heard. -/
def Hears (server : Server) {β : Type} (J : β → List (Request × Answer) → Prop)
    (x : StateM Wire β) : Prop :=
  ∀ w : Wire, ∃ next, (x.run w).2.sent = w.sent ++ next ∧ (x.run w).2.session = w.session ∧
    w.clock ≤ (x.run w).2.clock ∧ J (x.run w).1 (heard server w.sent next)

namespace Hears
variable {server : Server} {α β : Type} {ε : Type}

theorem mono {J K : β → List (Request × Answer) → Prop} {x : StateM Wire β}
    (hx : Hears server J x) (h : ∀ b l, J b l → K b l) : Hears server K x := by
  intro w
  obtain ⟨next, hsent, hsession, hclock, hj⟩ := hx w
  exact ⟨next, hsent, hsession, hclock, h _ _ hj⟩

theorem pure {J : β → List (Request × Answer) → Prop} {b : β} (h : J b []) :
    Hears server J (Pure.pure b : StateM Wire β) := fun _ =>
  ⟨[], (List.append_nil _).symm, rfl, Nat.le_refl _, h⟩

theorem bind {J : α → List (Request × Answer) → Prop} {K : β → List (Request × Answer) → Prop}
    {x : StateM Wire α} {f : α → StateM Wire β} (hx : Hears server J x)
    (hf : ∀ a l, J a l → Hears server (fun b l' => K b (l ++ l')) (f a)) :
    Hears server K (x >>= f) := by
  intro w
  obtain ⟨l, hsent, hsession, hclock, hj⟩ := hx w
  obtain ⟨l', hsent', hsession', hclock', hk⟩ := hf _ _ hj (x.run w).2
  refine ⟨l ++ l', ?_, hsession'.trans hsession, Nat.le_trans hclock hclock', ?_⟩
  · rw [← List.append_assoc, ← hsent]
    exact hsent'
  · rw [heard_append, ← hsent]
    exact hk

/-! ### Steps that may fail -/

section Failing
variable {J : Except ε α → List (Request × Answer) → Prop}
  {K : Except ε β → List (Request × Answer) → Prop} {x : ExceptT ε (StateM Wire) α}
  {f : α → ExceptT ε (StateM Wire) β}

theorem ok {a : α} (h : J (.ok a) []) :
    Hears server J (Pure.pure a : ExceptT ε (StateM Wire) α).run := pure h

theorem throw {e : ε} (h : J (.error e) []) :
    Hears server J (MonadExcept.throw e : ExceptT ε (StateM Wire) α).run := pure h

theorem andThen (hx : Hears server J x.run)
    (hf : ∀ a l, J (.ok a) l → Hears server (fun o l' => K o (l ++ l')) (f a).run)
    (hfail : ∀ e l, J (.error e) l → K (.error e) l) : Hears server K (x >>= f).run := by
  rw [ExceptT.run_bind]
  refine hx.bind fun result l hj => ?_
  cases result with
  | ok a => exact hf a l hj
  | error e => exact pure (by simpa using hfail e l hj)

/-- A step that sends nothing and cannot fail leaves all to what follows. -/
theorem silentThen {x : ExceptT ε (StateM Wire) Unit} {f : Unit → ExceptT ε (StateM Wire) β}
    (hx : Hears server (fun o l => o = .ok () ∧ l = []) x.run)
    (hf : Hears server K (f ()).run) : Hears server K (x >>= f).run := by
  refine hx.andThen (fun _ l h => ?_) fun e l h => ?_
  · rw [h.2]
    exact hf
  · cases h.1

theorem orElse {K : Except ε α → List (Request × Answer) → Prop}
    {g : ε → ExceptT ε (StateM Wire) α} (hx : Hears server J x.run)
    (hok : ∀ a l, J (.ok a) l → K (.ok a) l)
    (hg : ∀ e l, J (.error e) l → Hears server (fun o l' => K o (l ++ l')) (g e).run) :
    Hears server K (tryCatch x g).run := by
  rw [ExceptT.run_tryCatch]
  refine hx.bind fun result l hj => ?_
  cases result with
  | ok a => exact pure (by simpa using hok a l hj)
  | error e => exact hg e l hj

end Failing

end Hears

namespace Exchange
variable {link : Link} {label : Label} {d : Draft}

theorem hears_record (h : Happening) :
    Hears link.server (fun o l => o = .ok () ∧ l = []) (record link label h).run := by
  have hkeeps : ∀ w : Wire, ((record link label h).run.run w).2.sent = w.sent ∧
      ((record link label h).run.run w).2.session = w.session ∧
      ((record link label h).run.run w).2.clock = w.clock := by
    intro w
    show (if link.metered then _ else w : Wire).sent = _ ∧
      (if link.metered then _ else w : Wire).session = _ ∧
      (if link.metered then _ else w : Wire).clock = _
    split <;> exact ⟨rfl, rfl, rfl⟩
  intro w
  obtain ⟨hsent, hsession, hclock⟩ := hkeeps w
  exact ⟨[], by rw [hsent, List.append_nil], hsession, Nat.le_of_eq hclock.symm, rfl, rfl⟩

theorem hears_pause (t : Duration) :
    Hears link.server (fun o l => o = .ok () ∧ l = []) (pause t).run := fun _ =>
  ⟨[], (List.append_nil _).symm, rfl, Nat.le_add_right _ _, rfl, rfl⟩

/-- What an attempt hears: an answer that is its response, or it breaks down. -/
def Attempted (d : Draft) (o : Except Fault Response) (l : List (Request × Answer)) : Prop :=
  (∀ x ∈ l, d.request? = some x.1) ∧
  match o with
  | .ok a => ∃ r answer, l = [(r, answer)] ∧
      answer.reply = .response a.status a.requestId a.body
  | .error f => ∃ b, f = .transport b

theorem hears_breakOff (elapsed : Duration) (b : Breakdown) :
    Hears link.server (fun o l => o = .error (.transport b) ∧ l = [])
      (breakOff link label elapsed b).run :=
  (hears_record _).silentThen (.throw ⟨rfl, rfl⟩)

theorem hears_deliver {r : Request} (hr : d.request? = some r) :
    Hears link.server (Attempted d) (deliver link label r).run := by
  intro w
  rw [deliver_run, run_respond]
  refine ⟨_, rfl, rfl, Nat.le_add_right _ _, ?_⟩
  have hmade : ∀ reached : Bool, ∀ x ∈ heard link.server w.sent (if reached then [r] else []),
      d.request? = some x.1 := by
    intro reached
    cases reached <;> simp [heard, hr]
  refine ⟨hmade _, ?_⟩
  cases houtcome : (link.server w.sent r).outcome r with
  | error b => exact ⟨b, rfl⟩
  | ok a =>
    have hreply := Answer.reply_of_outcome houtcome
    unfold Trial.ofAnswer
    rw [Answer.isReached_of_response hreply]
    exact ⟨r, _, rfl, hreply⟩

theorem hears_attempt : Hears link.server (Attempted d) (attempt link label d).run := by
  refine (hears_record _).silentThen ?_
  cases hr : d.request? with
  | none =>
    refine (hears_breakOff _ _).mono fun o l h => ?_
    rw [h.1, h.2]
    exact ⟨by simp, _, rfl⟩
  | some r =>
    have hdeliver : Hears link.server (Attempted d) (deliver link label r).run := hears_deliver hr
    exact hdeliver

/-- What a request hears until there is a final outcome. -/
def Told (d : Draft) (o : Except Fault Response) (l : List (Request × Answer)) : Prop :=
  (∀ x ∈ l, d.request? = some x.1) ∧
  match o with
  | .ok a => a.isSuccess = true ∧ ∃ before r answer, l = before ++ [(r, answer)] ∧
      answer.reply = .response a.status a.requestId a.body ∧ ∀ x ∈ before, ¬ x.2.IsGrant
  | .error f => Client.isRefusal f = true → ∃ x ∈ l, x.2.IsRefusal

/-- A response without success is a refusal of what was shown only by its status. -/
theorem isRefusal_of_fault {a : Response} (h : Client.isRefusal a.fault = true) :
    a.status = 401 ∨ a.status = 403 := by
  unfold Response.fault at h
  split at h
  · cases h
  · simpa [Client.isRefusal] using h

theorem not_isGrant_of_reply {answer : Answer} {a : Response}
    (hreply : answer.reply = .response a.status a.requestId a.body) (h : ¬ a.isSuccess = true) :
    ¬ answer.IsGrant := by
  rintro ⟨status, requestId, body, hreply', hstatus⟩
  rw [hreply] at hreply'
  cases hreply'
  exact h (Response.isSuccess_iff.2 hstatus)

theorem told_of_success {a : Response} {l : List (Request × Answer)}
    (h : Attempted d (.ok a) l) (hsuccess : a.isSuccess = true) : Told d (.ok a) l := by
  obtain ⟨hmade, r, answer, rfl, hreply⟩ := h
  exact ⟨hmade, hsuccess, [], r, answer, rfl, hreply, by simp⟩

theorem told_of_fault {a : Response} {l : List (Request × Answer)} (h : Attempted d (.ok a) l) :
    Told d (.error a.fault) l := by
  obtain ⟨hmade, r, answer, rfl, hreply⟩ := h
  refine ⟨hmade, fun hrefusal => ⟨(r, answer), by simp, ?_⟩⟩
  exact ⟨a.status, a.requestId, a.body, hreply, isRefusal_of_fault hrefusal⟩

theorem told_of_error {f : Fault} {l : List (Request × Answer)} (h : Attempted d (.error f) l) :
    Told d (.error f) l := by
  obtain ⟨hmade, b, rfl⟩ := h
  exact ⟨hmade, fun hrefusal => by cases hrefusal⟩

/-- An attempt that brought no success adds nothing to what is told by the next ones. -/
theorem Told.after {a : Response} {l l' : List (Request × Answer)} {o : Except Fault Response}
    (h : Attempted d (.ok a) l) (hfailed : ¬ a.isSuccess = true) (ho : Told d o l') :
    Told d o (l ++ l') := by
  obtain ⟨hmade, r, answer, rfl, hreply⟩ := h
  obtain ⟨hmade', htold⟩ := ho
  refine ⟨fun x hx => (List.mem_append.1 hx).elim (hmade x) (hmade' x), ?_⟩
  cases o with
  | ok b =>
    obtain ⟨hsuccess, before, r', answer', rfl, hreply', hbefore⟩ := htold
    refine ⟨hsuccess, (r, answer) :: before, r', answer', rfl, hreply', fun x hx => ?_⟩
    rcases List.mem_cons.1 hx with rfl | hx
    · exact not_isGrant_of_reply hreply hfailed
    · exact hbefore x hx
  | error f =>
    intro hrefusal
    obtain ⟨x, hx, hanswer⟩ := htold hrefusal
    exact ⟨x, List.mem_append_right _ hx, hanswer⟩

theorem hears_attempts (made left : Nat) :
    Hears link.server (Told d) (attempts link label d made left).run := by
  induction left generalizing made with
  | zero =>
    refine hears_attempt.andThen (fun a l h => ?_) fun f l h => told_of_error h
    split
    · next hsuccess => exact .ok (by simpa using told_of_success h hsuccess)
    · split
      · refine .throw ⟨?_, fun hrefusal => by cases hrefusal⟩
        simpa using h.1
      · exact .throw (by simpa using told_of_fault h)
  | succ left ih =>
    refine hears_attempt.andThen (fun a l h => ?_) fun f l h => told_of_error h
    split
    · next hsuccess => exact .ok (by simpa using told_of_success h hsuccess)
    · next hfailed =>
      split
      · -- a status that may pass: a pause, and the attempts that are left
        refine (hears_record _).silentThen ((hears_pause _).silentThen ?_)
        exact (ih _).mono fun o l' ho => ho.after h hfailed
      · exact .throw (by simpa using told_of_fault h)

theorem hears_send (link : Link) (label : Label) (d : Draft) :
    Hears link.server (Told d) (send link label d).run := by
  refine (hears_attempts 0 _).orElse (fun _ _ => id) fun f l h => ?_
  exact (hears_record _).silentThen (.throw (by simpa using h))

end Exchange

/-! ## Logins and the exchanges of calls -/

/-- Whether an answer brings a session key. -/
def Answer.Brings (a : Answer) (key : String) : Prop :=
  ∃ status requestId body, a.reply = .response status requestId body ∧
    (200 ≤ status ∧ status ≤ 299) ∧
    (Json.Reader.value.run body).bind Client.sessionKey? = some key

theorem Answer.Brings.isGrant {a : Answer} {key : String} (h : a.Brings key) : a.IsGrant := by
  obtain ⟨status, requestId, body, hreply, hstatus, _⟩ := h
  exact ⟨status, requestId, body, hreply, hstatus⟩

theorem Response.run_of_readAs {α : Type} {what : String} {read : Json.Reader α} {r : Response}
    {a : α} (h : r.readAs what read = .ok a) : read.run r.body = some a := by
  unfold Response.readAs at h
  split at h
  · next b hb =>
    cases h
    exact hb
  · cases h

/-- What a body is not is no refusal of what was shown. -/
theorem Response.isRefusal_of_readAs {α : Type} {what : String} {read : Json.Reader α}
    {r : Response} {f : Fault} (h : r.readAs what read = .error f) :
    Client.isRefusal f = false := by
  unfold Response.readAs at h
  split at h
  · cases h
  · cases h
    rfl

theorem Response.isRefusal_of_map_readAs {α β : Type} {what : String} {read : Json.Reader α}
    {r : Response} {g : α → β} {f : Fault} (h : (r.readAs what read).map g = .error f) :
    Client.isRefusal f = false := by
  cases hread : r.readAs what read with
  | ok a =>
    rw [hread] at h
    cases h
  | error e =>
    rw [hread] at h
    cases h
    exact isRefusal_of_readAs hread

theorem Response.isRefusal_of_firstAs {α : Type} {what : String} {content : Json.Reader α}
    {r : Response} {f : Fault} (h : r.firstAs what content = .error f) :
    Client.isRefusal f = false := by
  unfold Response.firstAs at h
  cases hread : r.readAs what (Read.entries content) with
  | ok es =>
    rw [hread] at h
    cases es with
    | nil =>
      cases h
      rfl
    | cons e rest => cases h
  | error e =>
    rw [hread] at h
    cases h
    exact isRefusal_of_readAs hread

namespace Client

/-- A password that is unknown is no refusal of what was shown, and such a refusal stays. -/
theorem eq_of_unknownPassword {realm name : String} {e : Fault}
    (h : isRefusal (unknownPassword realm name e) = true) : unknownPassword realm name e = e := by
  unfold unknownPassword at h ⊢
  split at h
  · cases h
  · rfl

theorem hears_parsed {α : Type} {server : Server} (what : String) (read : Json.Reader α)
    (r : Response) : Hears server (fun o l => o = r.readAs what read ∧ l = [])
      (Exchange.parsed what read r).run := by
  rw [Exchange.parsed_run]
  exact .pure ⟨rfl, rfl⟩

/-- What a login hears: no answer brings a key but the last one, and that brings the key that the
login brings. -/
def LoggedIn (d : Draft) (o : Except Fault String) (l : List (Request × Answer)) : Prop :=
  ∀ key, o = .ok key → (∀ x ∈ l, d.request? = some x.1) ∧
    ∃ before r answer, l = before ++ [(r, answer)] ∧ answer.Brings key ∧
      ∀ x ∈ before, ∀ other, ¬ x.2.Brings other

theorem hears_logIn (link : Link) (username password : String) :
    Hears link.server (LoggedIn (.login link.baseUrl username password))
      (logIn link username password).run := by
  have hsend : Hears link.server
      (fun o l => ∀ a, o = .ok a → Exchange.Told (.login link.baseUrl username password) (.ok a) l)
      (mapFault (refusedLogin username) (Exchange.send link ⟨"/services/auth/login", .post⟩
        (.login link.baseUrl username password))).run := by
    refine (Exchange.hears_send link _ _).orElse ?_ fun f l h => .throw ?_
    · intro a l h b hb
      cases hb
      exact h
    · intro a ha
      cases ha
  refine hsend.andThen (fun a l h => ?_) fun f l _ key hkey => by cases hkey
  obtain ⟨hmade, hsuccess, before, r, answer, rfl, hreply, hbefore⟩ := h a rfl
  refine (hears_parsed _ _ a).andThen (fun v l' hv => ?_) fun f l' _ key hkey => by cases hkey
  obtain ⟨hv, rfl⟩ := hv
  have hbody := Response.run_of_readAs hv.symm
  split
  · next key hkey =>
    refine .ok fun other hother => ?_
    cases hother
    rw [List.append_nil, List.append_nil]
    refine ⟨hmade, before, r, answer, rfl, ?_, fun x hx other hbrings => ?_⟩
    · refine ⟨_, _, _, hreply, Response.isSuccess_iff.1 hsuccess, ?_⟩
      rw [hbody]
      exact hkey
    · exact hbefore x hx hbrings.isGrant
  · exact .throw fun key hkey => by cases hkey

end Client

namespace Operation

open Client

variable {op : Operation}

/-- A call makes a refusal of what was shown only of such a refusal. -/
theorem isRefusal_of_outcome {o : Except Fault Response} {f : Fault}
    (h : op.outcome o = .error f) (hrefusal : Client.isRefusal f = true) : o = .error f := by
  cases o with
  | error e =>
    -- only the two calls on a stored password make another fault of a fault
    cases op with
    | passwords app realm name =>
      cases h
      rw [eq_of_unknownPassword hrefusal]
    | deletePassword app realm name =>
      cases h
      rw [eq_of_unknownPassword hrefusal]
    | _ =>
      cases h
      rfl
  | ok r =>
    have hno : Client.isRefusal f = false := by
      cases op with
      | caller => exact Response.isRefusal_of_firstAs h
      | serverInfo => exact Response.isRefusal_of_firstAs h
      | indexes => exact Response.isRefusal_of_map_readAs h
      | tags => exact Response.isRefusal_of_map_readAs h
      | searchMacros => exact Response.isRefusal_of_map_readAs h
      | dataModels => exact Response.isRefusal_of_map_readAs h
      | passwords => exact Response.isRefusal_of_map_readAs h
      | updateMacro => cases h
      | updateDataModel => cases h
      | createPassword => cases h
      | deletePassword => cases h
    rw [hrefusal] at hno
    cases hno

/-- What the exchange of a call hears. -/
def Exchanged (d : Draft) (o : Except Fault α) (l : List (Request × Answer)) : Prop :=
  (∀ x ∈ l, d.request? = some x.1) ∧
    ∀ f, o = .error f → Client.isRefusal f = true → ∃ x ∈ l, x.2.IsRefusal

theorem hears_exchange (link : Link) (op : Operation) (shown : String) :
    Hears link.server (Exchanged (op.draft link.baseUrl shown)) (op.exchange link shown).run := by
  have hsend := Exchange.hears_send link ⟨op.endpoint, op.method⟩ (op.draft link.baseUrl shown)
  unfold exchange
  rw [ExceptT.run_mk, map_eq_pure_bind]
  refine hsend.bind fun o l h => .pure ?_
  rw [List.append_nil]
  refine ⟨h.1, fun f hf hrefusal => ?_⟩
  rw [isRefusal_of_outcome hf hrefusal] at h
  exact h.2 hrefusal

end Operation

end AccelForm.Rest
