import AccelForm.Proofs.Rest.Trial
/-
  When a post is granted

  A server grants a request by a response with a status of success. A post is
  repeated after a status that may pass, and once more after a new login where
  what was shown is refused; it succeeds exactly if the server granted one of
  its requests. `Wins` says this of a step, and follows the steps of a post:
  what is over once a request is granted, and what goes on where none is.
-/

namespace AccelForm.Rest

/-- Whether an answer is a response with a status of success. -/
def Answer.IsGrant (a : Answer) : Prop :=
  ∃ status requestId body, a.reply = .response status requestId body ∧
    200 ≤ status ∧ status ≤ 299

/-- Whether a server, after what it had been sent before, granted one of the requests of a kind
among those it was sent next. -/
def Granted (server : Server) (Q : Request → Prop) (past next : List Request) : Prop :=
  ∃ before r after, next = before ++ r :: after ∧ Q r ∧ (server (past ++ before) r).IsGrant

section Granted
variable {server : Server} {Q : Request → Prop} {past l l' : List Request}

theorem not_granted_of_forall (h : ∀ r ∈ l, ¬ Q r) : ¬ Granted server Q past l := by
  rintro ⟨before, r, after, rfl, hr, _⟩
  exact h r (by simp) hr

theorem granted_singleton {r : Request} :
    Granted server Q past [r] ↔ Q r ∧ (server past r).IsGrant := by
  constructor
  · rintro ⟨before, q, after, hl, hq, hgrant⟩
    obtain ⟨rfl, rfl, rfl⟩ : before = [] ∧ r = q ∧ after = [] := by
      cases before <;> simp_all
    rw [List.append_nil] at hgrant
    exact ⟨hq, hgrant⟩
  · rintro ⟨hr, hgrant⟩
    exact ⟨[], r, [], rfl, hr, by rwa [List.append_nil]⟩

theorem granted_append : Granted server Q past (l ++ l') ↔
    Granted server Q past l ∨ Granted server Q (past ++ l) l' := by
  constructor
  · rintro ⟨before, r, after, hl, hr, hgrant⟩
    rcases List.append_eq_append_iff.1 hl with ⟨more, rfl, rfl⟩ | ⟨more, rfl, hmore⟩
    · exact .inr ⟨more, r, after, rfl, hr, by rwa [List.append_assoc]⟩
    · cases more with
      | nil =>
        exact .inr ⟨[], r, after, hmore.symm, hr, by simpa using hgrant⟩
      | cons q more =>
        obtain ⟨rfl, rfl⟩ := List.cons.inj hmore
        exact .inl ⟨before, r, more, rfl, hr, hgrant⟩
  · rintro (⟨before, r, after, rfl, hr, hgrant⟩ | ⟨before, r, after, rfl, hr, hgrant⟩)
    · exact ⟨before, r, after ++ l', by simp, hr, hgrant⟩
    · exact ⟨l ++ before, r, after, by simp, hr, by rwa [← List.append_assoc]⟩

end Granted

/-- Whether a step sends only logins and requests of a kind, and ends well exactly if the server
granted one of the latter. -/
def Wins (server : Server) (Q : Request → Prop) {β : Type} (good : β → Prop)
    (x : StateM Wire β) : Prop :=
  ∀ w, ∃ l, (x.run w).2.sent = w.sent ++ l ∧ (∀ r ∈ l, r.IsLogin ∨ Q r) ∧
    (good (x.run w).1 ↔ Granted server Q w.sent l)

/-- Whether a result is no fault. -/
def Succeeds {ε α : Type} (result : Except ε α) : Prop := ∃ a, result = .ok a

theorem not_succeeds_error {ε α : Type} (e : ε) : ¬ Succeeds (.error e : Except ε α) := by
  rintro ⟨_, h⟩
  cases h

namespace Wins
variable {server : Server} {Q : Request → Prop} {α β : Type} {good : β → Prop}

theorem of_not {x : StateM Wire β} (h : ∀ w, (x.run w).2.sent = w.sent ∧ ¬ good (x.run w).1) :
    Wins server Q good x := fun w =>
  ⟨[], by rw [(h w).1, List.append_nil], by simp,
    iff_of_false (h w).2 (not_granted_of_forall (by simp))⟩

theorem mono {Q' : Request → Prop} {x : StateM Wire β} (hx : Wins server Q good x)
    (h : ∀ r, Q r → Q' r) (hQ' : ∀ r, r.IsLogin → ¬ Q' r) : Wins server Q' good x := by
  intro w
  obtain ⟨l, hl, hkind, hgood⟩ := hx w
  refine ⟨l, hl, fun r hr => (hkind r hr).imp_right (h r), hgood.trans ⟨?_, ?_⟩⟩
  · rintro ⟨before, r, after, hr, hq, hgrant⟩
    exact ⟨before, r, after, hr, h r hq, hgrant⟩
  · rintro ⟨before, r, after, rfl, hq, hgrant⟩
    exact ⟨before, r, after, rfl, (hkind r (by simp)).resolve_left fun hr => hQ' r hr hq, hgrant⟩

/-- After logins nothing is won yet. -/
theorem bind_of_logins {x : StateM Wire α} {f : α → StateM Wire β} (hQ : ∀ r, r.IsLogin → ¬ Q r)
    (hx : Sends Request.IsLogin x) (hf : ∀ a, Wins server Q good (f a)) :
    Wins server Q good (x >>= f) := by
  intro w
  obtain ⟨l, hl, hlogin⟩ := hx.sends w
  obtain ⟨l', hl', hkind, hgood⟩ := hf (x.run w).1 (x.run w).2
  refine ⟨l ++ l', ?_, ?_, ?_⟩
  · rw [← List.append_assoc, ← hl]
    exact hl'
  · exact fun r hr => (List.mem_append.1 hr).elim (fun hr => .inl (hlogin r hr)) (hkind r)
  · have hno : ¬ Granted server Q w.sent l := not_granted_of_forall fun r hr => hQ r (hlogin r hr)
    rw [granted_append, or_iff_right hno, ← hl]
    exact hgood

/-- What follows adds nothing to what is won, and goes on where nothing is. -/
theorem bind {x : StateM Wire α} {f : α → StateM Wire β} {won : α → Prop}
    (hx : Wins server Q won x)
    (hwon : ∀ a, won a → ∀ w, ((f a).run w).2.sent = w.sent ∧ good ((f a).run w).1)
    (hf : ∀ a, ¬ won a → Wins server Q good (f a)) : Wins server Q good (x >>= f) := by
  intro w
  obtain ⟨l, hl, hkind, hgood⟩ := hx w
  by_cases h : won (x.run w).1
  · obtain ⟨hsent, hend⟩ := hwon _ h (x.run w).2
    exact ⟨l, hsent.trans hl, hkind, iff_of_true hend (hgood.1 h)⟩
  · obtain ⟨l', hl', hkind', hgood'⟩ := hf _ h (x.run w).2
    refine ⟨l ++ l', ?_, ?_, ?_⟩
    · rw [← List.append_assoc, ← hl]
      exact hl'
    · exact fun r hr => (List.mem_append.1 hr).elim (hkind r) (hkind' r)
    · rw [granted_append, or_iff_right (mt hgood.2 h), ← hl]
      exact hgood'

/-! ### Steps that may fail -/

section Failing
variable {ε γ : Type} {x : ExceptT ε (StateM Wire) α} {f : α → ExceptT ε (StateM Wire) γ}
  {won : Except ε α → Prop} {good : Except ε γ → Prop}

theorem throw {e : ε} (h : ¬ won (.error e)) :
    Wins server Q won (MonadExcept.throw e : ExceptT ε (StateM Wire) α).run :=
  of_not fun _ => ⟨rfl, h⟩

theorem andThen_of_logins (hQ : ∀ r, r.IsLogin → ¬ Q r) (hx : Sends Request.IsLogin x.run)
    (hf : ∀ a, Wins server Q good (f a).run) (hfail : ∀ e, ¬ good (.error e)) :
    Wins server Q good (x >>= f).run := by
  rw [ExceptT.run_bind]
  refine bind_of_logins hQ hx fun result => ?_
  cases result with
  | ok a => exact hf a
  | error e => exact throw (hfail e)

theorem andThen (hx : Wins server Q won x.run) (hfail : ∀ e, ¬ won (.error e))
    (hwon : ∀ a, won (.ok a) → ∃ b, f a = Pure.pure b)
    (hf : ∀ a, ¬ won (.ok a) → Wins server Q Succeeds (f a).run) :
    Wins server Q Succeeds (x >>= f).run := by
  rw [ExceptT.run_bind]
  refine bind hx (fun result h => ?_) fun result h => ?_
  · cases result with
    | ok a =>
      obtain ⟨b, hb⟩ := hwon a h
      intro w
      show ((f a).run.run w).2.sent = w.sent ∧ Succeeds ((f a).run.run w).1
      rw [hb]
      exact ⟨rfl, b, rfl⟩
    | error e => exact absurd h (hfail e)
  · cases result with
    | ok a => exact hf a h
    | error e => exact throw (not_succeeds_error e)

theorem orElse {g : ε → ExceptT ε (StateM Wire) α} (hx : Wins server Q Succeeds x.run)
    (hg : ∀ e, Wins server Q Succeeds (g e).run) :
    Wins server Q Succeeds (tryCatch x g).run := by
  rw [ExceptT.run_tryCatch]
  refine bind hx (fun result h => ?_) fun result h => ?_
  · obtain ⟨a, rfl⟩ := h
    exact fun _ => ⟨rfl, a, rfl⟩
  · cases result with
    | ok a => exact absurd ⟨a, rfl⟩ h
    | error e => exact hg e

theorem map {g : α → γ} (hx : Wins server Q Succeeds x.run) :
    Wins server Q Succeeds (g <$> x).run := by
  exact andThen hx not_succeeds_error (fun a _ => ⟨g a, rfl⟩) fun a ha => absurd ⟨a, rfl⟩ ha

end Failing

end Wins

/-! ## Posts -/

namespace Response

theorem isSuccess_iff {r : Response} : r.isSuccess = true ↔ 200 ≤ r.status ∧ r.status ≤ 299 := by
  unfold isSuccess
  rw [Bool.and_eq_true, decide_eq_true_eq, decide_eq_true_eq]

end Response

namespace Exchange
variable {link : Link} {d : Draft}

/-- Whether an attempt brought a response with a status of success. -/
def Success (result : Except Fault Response) : Prop := ∃ a, result = .ok a ∧ a.isSuccess = true

theorem not_success_error (f : Fault) : ¬ Success (.error f) := by
  rintro ⟨_, h, _⟩
  cases h

theorem success_ok {a : Response} : Success (.ok a) ↔ a.isSuccess = true := by
  constructor
  · rintro ⟨_, h, hsuccess⟩
    cases h
    exact hsuccess
  · exact fun h => ⟨a, rfl, h⟩

/-- The request is noted unless it did not reach the server, and the attempt is a success exactly
if the answer is a grant. -/
theorem respond_run (link : Link) (label : Label) (r : Request) (answer : Answer) (w : Wire) :
    ((respond link label r answer).run.run w).2.sent =
      w.sent ++ (if answer.isReached then [r] else []) ∧
    (Success ((respond link label r answer).run.run w).1 ↔ answer.IsGrant) := by
  rw [run_respond]
  refine ⟨rfl, ?_⟩
  constructor
  · rintro ⟨a, ha, hsuccess⟩
    cases houtcome : answer.outcome r with
    | error b =>
      rw [houtcome] at ha
      cases ha
    | ok a' =>
      rw [houtcome] at ha
      cases ha
      exact ⟨_, _, _, Answer.reply_of_outcome houtcome, Response.isSuccess_iff.1 hsuccess⟩
  · rintro ⟨_, _, _, hreply, hstatus⟩
    rw [Answer.outcome_of_response hreply]
    exact ⟨_, rfl, Response.isSuccess_iff.2 hstatus⟩

theorem wins_deliver (link : Link) (label : Label) {r : Request} (hr : d.request? = some r) :
    Wins link.server (d.request? = some ·) Success (deliver link label r).run := by
  intro w
  rw [deliver_run]
  obtain ⟨hsent, hsuccess⟩ := respond_run link label r (link.server w.sent r) w
  refine ⟨_, hsent, ?_, hsuccess.trans ?_⟩
  · intro q hq
    split at hq
    · exact .inr (List.mem_singleton.1 hq ▸ hr)
    · cases hq
  · split
    · rw [granted_singleton]
      exact (and_iff_right hr).symm
    · next hreached =>
      refine iff_of_false ?_ (not_granted_of_forall (by simp))
      rintro ⟨_, _, _, hreply, _⟩
      exact hreached (Answer.isReached_of_response hreply)

section NoLogin
variable (hd : d.Makes fun r => ¬ r.IsLogin)

include hd

theorem not_made_of_isLogin (r : Request) (hr : r.IsLogin) : ¬ d.request? = some r :=
  fun h => hd r h hr

theorem wins_attempt (label : Label) :
    Wins link.server (d.request? = some ·) Success (attempt link label d).run := by
  refine .andThen_of_logins (not_made_of_isLogin hd) (sends_record label _) (fun _ => ?_)
    not_success_error
  cases hr : d.request? with
  | some r =>
    have hdeliver := wins_deliver link label hr
    rwa [hr] at hdeliver
  | none =>
    exact .andThen_of_logins (fun _ _ h => by cases h) (sends_record label _)
      (fun _ => .throw (not_success_error _)) not_success_error

theorem wins_attempts (label : Label) (made left : Nat) :
    Wins link.server (d.request? = some ·) Succeeds (attempts link label d made left).run := by
  induction left generalizing made with
  | zero =>
    refine .andThen (wins_attempt hd label) not_success_error (fun a ha => ⟨a, ?_⟩) fun a ha => ?_
    · exact if_pos (success_ok.1 ha)
    · rw [if_neg (mt success_ok.2 ha)]
      split <;> exact .throw (not_succeeds_error _)
  | succ left ih =>
    refine .andThen (wins_attempt hd label) not_success_error (fun a ha => ⟨a, ?_⟩) fun a ha => ?_
    · exact if_pos (success_ok.1 ha)
    · rw [if_neg (mt success_ok.2 ha)]
      split
      · -- nothing was granted yet, so all depends on the attempts that are left
        exact .andThen_of_logins (not_made_of_isLogin hd) (sends_record label _) (fun _ =>
          .andThen_of_logins (not_made_of_isLogin hd) (sends_pause _) (fun _ => ih _)
            not_succeeds_error) not_succeeds_error
      · exact .throw (not_succeeds_error _)

theorem wins_send (link : Link) (label : Label) :
    Wins link.server (d.request? = some ·) Succeeds (send link label d).run :=
  .orElse (wins_attempts hd label 0 _) fun _ =>
    .andThen_of_logins (not_made_of_isLogin hd) (sends_record label _)
      (fun _ => .throw (not_succeeds_error _)) not_succeeds_error

end NoLogin

end Exchange

namespace Client

open Exchange

/-- The draft of a post at an address with what the caller shows. -/
def postDraft (address : String) (form : List (String × String)) (shown : String) : Draft where
  method := .post
  address := address
  query := [jsonMode]
  bearer := some shown
  form := form

/-- Whether a request is a post of a form at an address. -/
def IsPost (address : String) (form : List (String × String)) (r : Request) : Prop :=
  ∃ shown, (postDraft address form shown).request? = some r

/-- A post shows something, which a login does not. -/
theorem IsPost.not_isLogin {address : String} {form : List (String × String)} {r : Request}
    (h : IsPost address form r) : ¬ r.IsLogin := by
  obtain ⟨shown, h⟩ := h
  intro hlogin
  have hshown := (Draft.of_request?_eq_some h).2.1
  rw [hlogin.authorization] at hshown
  cases hshown

theorem wins_post (link : Link) (label : Label) (address : String) (form : List (String × String))
    (shown : String) :
    Wins link.server (IsPost address form) Succeeds
      (discard (send link label (postDraft address form shown))).run := by
  have hpost : ∀ r, (postDraft address form shown).request? = some r → IsPost address form r :=
    fun r hr => ⟨shown, hr⟩
  have hsend := (wins_send (fun r hr => (hpost r hr).not_isLogin) link label).mono hpost
    fun r hr h => h.not_isLogin hr
  exact hsend.map

/-- A post succeeds exactly if one of its requests was granted. -/
theorem wins_posting (link : Link) (endpoint address : String) (form : List (String × String)) :
    Wins link.server (IsPost address form) Succeeds (posting link endpoint address form).run := by
  have hQ : ∀ r, r.IsLogin → ¬ IsPost address form r := fun r hr h => h.not_isLogin hr
  have hbearer : Sends Request.IsLogin (bearer link).run :=
    alike_bearer (.refl _ _) fun _ => id
  have hpost := wins_post link ⟨endpoint, .post⟩ address form
  refine .andThen_of_logins hQ hbearer (fun shown => (hpost shown).orElse fun f => ?_)
    not_succeeds_error
  refine .andThen_of_logins hQ (Alike.quiet fun _ => rfl) (fun w => ?_) not_succeeds_error
  -- only here a second post can follow: what was shown with the first one is refused
  split
  · exact .andThen_of_logins hQ sends_forget
      (fun _ => .andThen_of_logins hQ hbearer hpost not_succeeds_error) not_succeeds_error
  · exact .throw (not_succeeds_error _)

end Client

end AccelForm.Rest
