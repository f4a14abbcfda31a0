import AccelForm.Proofs.Rest.Trace
/-
  What the calls send

  A call sends its own request, again and again while the server asks for
  patience, and logins. So a call that lists something sends only requests
  that read, and servers that answer those alike are the same to it
  (`Server.Agrees`); a call that posts or deletes sends its own request besides.
-/

namespace AccelForm.Rest

variable {P : Request → Prop} {link : Link} {server' : Server} {α : Type}

/-- Whether a server answers as another one every request of a kind, as long as it was sent
nothing else. -/
def Server.Agrees (P : Request → Prop) (server server' : Server) : Prop :=
  ∀ past r, (∀ q ∈ past, P q) → P r → server' past r = server past r

theorem Server.Agrees.refl (P : Request → Prop) (server : Server) : server.Agrees P server :=
  fun _ _ _ _ => rfl

def Link.on (link : Link) (server : Server) : Link := { link with server := server }

/-- Whether a draft makes only requests of a kind. -/
def Draft.Makes (P : Request → Prop) (d : Draft) : Prop := ∀ r, d.request? = some r → P r

namespace Exchange

theorem sends_record (label : Label) (h : Happening) : Sends P (record link label h).run := by
  refine Alike.quiet fun w => ?_
  show (if link.metered then _ else w).sent = w.sent
  split <;> rfl

theorem sends_pause (d : Duration) : Sends P (pause d).run := Alike.quiet fun _ => rfl

theorem sends_note {r : Request} (hr : P r) : Sends P (note r).run where
  sends w := ⟨[r], rfl, by simpa using hr⟩
  agrees _ _ := rfl

theorem sends_breakOff (label : Label) (elapsed : Duration) (b : Breakdown) :
    Sends P (breakOff link label elapsed b).run :=
  (sends_record label _).andThen fun _ => .throw _

theorem deliver_run (link : Link) (label : Label) (r : Request) (w : Wire) :
    (deliver link label r).run.run w =
      (respond link label r (link.server w.sent r)).run.run w := rfl

theorem sends_noteIf {r : Request} (hr : P r) (reached : Bool) : Sends P (noteIf reached r).run := by
  cases reached with
  | true => exact sends_note hr
  | false => exact .ok _

theorem sends_respond (label : Label) {r : Request} (hr : P r) (answer : Answer) :
    Sends P (respond link label r answer).run := by
  refine (sends_pause _).andThen fun _ => (sends_noteIf hr _).andThen fun _ => ?_
  cases answer.outcome r with
  | ok a => exact (sends_record label _).andThen fun _ => .ok _
  | error b => exact sends_breakOff label _ _

section Agreeing
variable (h : link.server.Agrees P server')

include h

theorem alike_deliver (label : Label) {r : Request} (hr : P r) :
    Alike P (deliver link label r).run (deliver (link.on server') label r).run where
  sends w := by
    rw [deliver_run]
    exact (sends_respond label hr _).sends w
  agrees w hw := by
    have hanswer : (link.on server').server w.sent r = link.server w.sent r := h w.sent r hw hr
    rw [deliver_run, deliver_run, hanswer]
    rfl

theorem alike_attempt (label : Label) {d : Draft} (hd : d.Makes P) :
    Alike P (attempt link label d).run (attempt (link.on server') label d).run := by
  refine (sends_record label _).andThen fun _ => ?_
  cases hr : d.request? with
  | none => exact sends_breakOff label _ _
  | some r => exact alike_deliver h label (hd r hr)

theorem alike_attempts (label : Label) {d : Draft} (hd : d.Makes P) (made left : Nat) :
    Alike P (attempts link label d made left).run
      (attempts (link.on server') label d made left).run := by
  induction left generalizing made with
  | zero =>
    refine (alike_attempt h label hd).andThen fun r => ?_
    split
    · exact .ok _
    · split <;> exact .throw _
  | succ left ih =>
    refine (alike_attempt h label hd).andThen fun r => ?_
    split
    · exact .ok _
    · split
      · -- a status that may pass: a pause, and the attempts that are left
        exact (sends_record label _).andThen fun _ => (sends_pause _).andThen fun _ => ih _
      · exact .throw _

theorem alike_send (label : Label) {d : Draft} (hd : d.Makes P) :
    Alike P (send link label d).run (send (link.on server') label d).run :=
  (alike_attempts h label hd 0 _).orElse fun _ =>
    (sends_record label _).andThen fun _ => .throw _

end Agreeing

theorem sends_parsed (what : String) (read : Json.Reader α) (r : Response) :
    Sends P (parsed what read r).run := by
  unfold parsed
  split
  · exact .ok _
  · exact .throw _

end Exchange

namespace Client

open Exchange

theorem sends_forget : Sends P forget.run := Alike.quiet fun _ => rfl

theorem alike_mapFault {f : Fault → Fault} {x x' : Exchange α} (hx : Alike P x.run x'.run) :
    Alike P (mapFault f x).run (mapFault f x').run := hx.orElse fun _ => .throw _

section Agreeing
variable (h : link.server.Agrees P server') (hlogin : ∀ r, r.IsLogin → P r)

include h hlogin

theorem alike_logIn (username password : String) :
    Alike P (logIn link username password).run
      (logIn (link.on server') username password).run := by
  refine (alike_mapFault (alike_send h _ fun r hr => ?_)).andThen fun r => ?_
  · exact hlogin r ⟨link.baseUrl, username, password, hr⟩
  · refine (sends_parsed _ _ r).andThen fun v => ?_
    split
    · exact .ok _
    · exact .throw _

theorem alike_bearer : Alike P (bearer link).run (bearer (link.on server')).run := by
  unfold bearer
  refine .get_andThen fun w => ?_
  dsimp only
  split
  · cases w.session.credentials with
    | token token =>
      refine (Alike.throw _).andThen fun _ => .get_andThen fun v => ?_
      split <;> exact .pure _
    | login username password =>
      refine (alike_logIn h hlogin username password).andThen fun key =>
        Alike.andThen (.quiet fun _ => rfl) fun _ => .get_andThen fun v => ?_
      split <;> exact .pure _
  · refine .get_andThen fun v => ?_
    split <;> exact .pure _

theorem alike_renewing {call call' : String → Exchange α}
    (hcall : ∀ shown, Alike P (call shown).run (call' shown).run) :
    Alike P (renewing link call).run (renewing (link.on server') call').run := by
  refine (alike_bearer h hlogin).andThen fun shown => (hcall shown).orElse fun f => ?_
  refine .get_andThen fun w => ?_
  split
  · -- what was shown is refused: a new login, and the call once more
    exact sends_forget.andThen fun _ => (alike_bearer h hlogin).andThen hcall
  · exact .throw _

end Agreeing

/-! ## Calls that read -/

theorem makes_isRead {d : Draft} (hd : d.method = .get) : d.Makes Request.IsRead :=
  fun _ hr => .inl ((Draft.of_request?_eq_some hr).1.trans hd)

section Reading
variable (h : link.server.Agrees Request.IsRead server')

include h

theorem alike_listing (endpoint address what : String) (query : List (String × String))
    (content : Json.Reader α) :
    Alike Request.IsRead (listing link endpoint address what query content).run
      (listing (link.on server') endpoint address what query content).run :=
  alike_renewing h (fun _ => .inr) fun _ =>
    (alike_send h _ (makes_isRead rfl)).andThen fun r => sends_parsed _ _ r

theorem alike_single (endpoint what : String) (content : Json.Reader α) :
    Alike Request.IsRead (single link endpoint what content).run
      (single (link.on server') endpoint what content).run := by
  refine alike_renewing h (fun _ => .inr) fun _ =>
    (alike_send h _ (makes_isRead rfl)).andThen fun r => (sends_parsed _ _ r).andThen fun es => ?_
  cases es with
  | nil => exact .throw _
  | cons e rest => exact .ok _

theorem alike_passwords (app realm name : String) :
    Alike Request.IsRead (passwords link app realm name).run
      (passwords (link.on server') app realm name).run :=
  alike_renewing h (fun _ => .inr) fun _ =>
    (alike_mapFault (alike_send h _ (makes_isRead rfl))).andThen fun r =>
      (sends_parsed _ _ r).map

end Reading

end Client

end AccelForm.Rest
