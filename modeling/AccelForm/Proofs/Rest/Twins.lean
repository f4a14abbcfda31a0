import AccelForm.Proofs.Rest.Calls
import AccelForm.Proofs.Rest.Secrets
/-
  Two runs of a step

  `p.Twins R x x'` says of two steps that they end alike wherever they begin
  alike: the wires differ in the secrets only, and so do the results as far as
  `R` allows. Nothing but what is shown differs on the way, and that goes into
  requests only; servers that give the same replies to such requests therefore
  bring the same results, call by call.
-/

namespace AccelForm.Rest

namespace Secrets
variable (p : Secrets)

/-- Whether two wires differ in the secrets only. -/
structure Wires (w w' : Wire) : Prop where
  sent : List.Forall₂ p.Swaps w.sent w'.sent
  events : w'.events = w.events
  clock : w'.clock = w.clock
  own : w.session.credentials = p.own
  other : w'.session.credentials = p.other
  key : w'.session.key = w.session.key

theorem Wires.start : p.Wires (.start p.own) (.start p.other) := ⟨.nil, rfl, rfl, rfl, rfl, rfl⟩

/-- Two steps that end alike wherever they begin alike. -/
def Twins {α : Type} (R : α → α → Prop) (x x' : StateM Wire α) : Prop :=
  ∀ w w', p.Wires w w' →
    R (x.run w).1 (x'.run w').1 ∧ p.Wires (x.run w).2 (x'.run w').2

namespace Twins
variable {p} {α β ε : Type} {R : α → α → Prop} {Q : β → β → Prop}

theorem pure {a a' : α} (h : R a a') : p.Twins R (Pure.pure a) (Pure.pure a') :=
  fun _ _ hw => ⟨h, hw⟩

theorem bind {x x' : StateM Wire α} {f f' : α → StateM Wire β} (hx : p.Twins R x x')
    (hf : ∀ a a', R a a' → p.Twins Q (f a) (f' a')) : p.Twins Q (x >>= f) (x' >>= f') := by
  intro w w' hw
  obtain ⟨hresult, hwires⟩ := hx w w' hw
  exact hf _ _ hresult _ _ hwires

/-- What follows the same result of both steps. -/
theorem bindSame {x x' : StateM Wire α} {f f' : α → StateM Wire β} (hx : p.Twins Eq x x')
    (hf : ∀ a, p.Twins Q (f a) (f' a)) : p.Twins Q (x >>= f) (x' >>= f') := by
  refine hx.bind fun a a' h => ?_
  rw [h]
  exact hf a'

theorem map {x x' : StateM Wire α} (g : α → β) (hx : p.Twins Eq x x') :
    p.Twins Eq (g <$> x) (g <$> x') := by
  rw [map_eq_pure_bind, map_eq_pure_bind]
  exact hx.bindSame fun _ => pure rfl

theorem mapM {l : List α} {f f' : α → StateM Wire β} (h : ∀ a, p.Twins Eq (f a) (f' a)) :
    p.Twins Eq (l.mapM f) (l.mapM f') := by
  induction l with
  | nil => exact pure rfl
  | cons a l ih =>
    rw [List.mapM_cons, List.mapM_cons]
    exact (h a).bindSame fun b => ih.bindSame fun bs => pure rfl

/-! ### Steps that may fail -/

section Failing

theorem ok (a : α) : p.Twins Eq (Pure.pure a : ExceptT ε (StateM Wire) α).run
    (Pure.pure a : ExceptT ε (StateM Wire) α).run := pure rfl

theorem throw (e : ε) : p.Twins Eq (MonadExcept.throw e : ExceptT ε (StateM Wire) α).run
    (MonadExcept.throw e : ExceptT ε (StateM Wire) α).run := pure rfl

/-- What follows the same result, where the results of the whole may differ unless it fails. -/
theorem andThenTo {Q : Except ε β → Except ε β → Prop} {x x' : ExceptT ε (StateM Wire) α}
    {f f' : α → ExceptT ε (StateM Wire) β} (hx : p.Twins Eq x.run x'.run)
    (hf : ∀ a, p.Twins Q (f a).run (f' a).run) (hfail : ∀ e, Q (.error e) (.error e)) :
    p.Twins Q (x >>= f).run (x' >>= f').run := by
  rw [ExceptT.run_bind, ExceptT.run_bind]
  refine hx.bindSame fun result => ?_
  cases result with
  | ok a => exact hf a
  | error e => exact pure (hfail e)

theorem andThen {x x' : ExceptT ε (StateM Wire) α} {f f' : α → ExceptT ε (StateM Wire) β}
    (hx : p.Twins Eq x.run x'.run) (hf : ∀ a, p.Twins Eq (f a).run (f' a).run) :
    p.Twins Eq (x >>= f).run (x' >>= f').run := hx.andThenTo hf fun _ => rfl

theorem orElse {x x' : ExceptT ε (StateM Wire) α} {g g' : ε → ExceptT ε (StateM Wire) α}
    (hx : p.Twins Eq x.run x'.run) (hg : ∀ e, p.Twins Eq (g e).run (g' e).run) :
    p.Twins Eq (tryCatch x g).run (tryCatch x' g').run := by
  rw [ExceptT.run_tryCatch, ExceptT.run_tryCatch]
  refine hx.bindSame fun result => ?_
  cases result with
  | ok a => exact pure rfl
  | error e => exact hg e

/-- What follows a look at the wire. -/
theorem getThen {R : Except ε β → Except ε β → Prop} {f f' : Wire → ExceptT ε (StateM Wire) β}
    (hf : ∀ w w', p.Wires w w' → p.Twins R (f w).run (f' w').run) :
    p.Twins R (get >>= f : ExceptT ε (StateM Wire) β).run (get >>= f').run :=
  fun w w' hw => hf w w' hw w w' hw

theorem mapOk (g : α → β) {x x' : ExceptT ε (StateM Wire) α} (hx : p.Twins Eq x.run x'.run) :
    p.Twins Eq (g <$> x).run (g <$> x').run := by
  rw [ExceptT.run_map, ExceptT.run_map]
  exact hx.map _

theorem lift {x x' : StateM Wire α} (hx : p.Twins Eq x x') :
    p.Twins Eq (ExceptT.lift x : ExceptT ε (StateM Wire) α).run (ExceptT.lift x').run :=
  hx.map Except.ok

end Failing

end Twins

end Secrets

open Secrets

namespace Exchange
variable {p : Secrets} {link : Link} {server' : Server} {label : Label}

theorem twins_record (h : Happening) :
    p.Twins Eq (record link label h).run (record (link.on server') label h).run := by
  intro w w' hw
  refine ⟨rfl, ?_⟩
  show p.Wires (if link.metered then _ else w : Wire) (if link.metered then _ else w' : Wire)
  split
  · exact { hw with events := congrArg (· ++ _) hw.events }
  · exact hw

theorem twins_pause (t : Duration) : p.Twins Eq (pause t).run (pause t).run := fun _ _ hw =>
  ⟨rfl, { hw with clock := congrArg (· + t.nanos) hw.clock }⟩

theorem twins_note {r r' : Request} (h : p.Swaps r r') : p.Twins Eq (note r).run (note r').run :=
  fun _ _ hw => ⟨rfl, { hw with sent := List.rel_append hw.sent (.cons h .nil) }⟩

theorem twins_breakOff (elapsed : Duration) (b : Breakdown) :
    p.Twins Eq (breakOff link label elapsed b).run
      (breakOff (link.on server') label elapsed b).run :=
  (twins_record _).andThen fun _ => .throw _

theorem twins_noteIf {r r' : Request} (h : p.Swaps r r') (reached : Bool) :
    p.Twins Eq (noteIf reached r).run (noteIf reached r').run := by
  cases reached with
  | true => exact twins_note h
  | false => exact .ok _

theorem twins_respond {r r' : Request} (h : p.Swaps r r') (answer : Answer) :
    p.Twins Eq (respond link label r answer).run
      (respond (link.on server') label r' answer).run := by
  have houtcome : answer.outcome r' = answer.outcome r := by
    unfold Answer.outcome
    rw [h.url_eq]
  unfold respond
  rw [houtcome]
  refine (twins_pause _).andThen fun _ => (twins_noteIf h _).andThen fun _ => ?_
  cases answer.outcome r with
  | ok a => exact (twins_record _).andThen fun _ => .ok _
  | error b => exact twins_breakOff _ _

section Replying
variable (hserver : p.SameReplies link.server server')

include hserver

theorem twins_deliver {r r' : Request} (h : p.Swaps r r') :
    p.Twins Eq (deliver link label r).run (deliver (link.on server') label r').run := by
  intro w w' hw
  have hanswer : (link.on server').server w'.sent r' = link.server w.sent r :=
    hserver _ _ _ _ hw.sent h
  rw [deliver_run, deliver_run, hanswer]
  exact twins_respond h _ w w' hw

variable {d d' : Draft} (hd : Option.Rel p.Swaps d.request? d'.request?)

include hd

theorem twins_attempt :
    p.Twins Eq (attempt link label d).run (attempt (link.on server') label d').run := by
  refine (twins_record _).andThen fun _ => ?_
  generalize d.request? = r, d'.request? = r' at hd ⊢
  cases hd with
  | none => exact twins_breakOff _ _
  | some h => exact twins_deliver hserver h

theorem twins_attempts (made left : Nat) :
    p.Twins Eq (attempts link label d made left).run
      (attempts (link.on server') label d' made left).run := by
  induction left generalizing made with
  | zero =>
    refine (twins_attempt hserver hd).andThen fun r => ?_
    split
    · exact .ok _
    · split <;> exact .throw _
  | succ left ih =>
    refine (twins_attempt hserver hd).andThen fun r => ?_
    split
    · exact .ok _
    · split
      · exact (twins_record _).andThen fun _ => (twins_pause _).andThen fun _ => ih _
      · exact .throw _

theorem twins_send :
    p.Twins Eq (send link label d).run (send (link.on server') label d').run :=
  (twins_attempts hserver hd 0 _).orElse fun _ => (twins_record _).andThen fun _ => .throw _

end Replying

theorem twins_parsed {α : Type} (what : String) (read : Json.Reader α) (r : Response) :
    p.Twins Eq (parsed what read r).run (parsed what read r).run := by
  rw [parsed_run]
  exact .pure rfl

end Exchange

namespace Secrets
variable {p : Secrets} {w w' : Wire}

theorem Wires.hasToken_eq (hp : p.own.Swapped p.other) (hw : p.Wires w w') :
    w'.session.hasToken = w.session.hasToken := by
  unfold Session.hasToken
  rw [hw.own, hw.other]
  rcases hp.cases with ⟨_, _, hown, hother, _⟩ | ⟨_, _, _, hown, hother⟩
  · rw [hown, hother]
  · rw [hown, hother]

theorem Wires.isExpired_eq (hp : p.own.Swapped p.other) (hw : p.Wires w w') :
    w'.session.isExpired w'.clock = w.session.isExpired w.clock := by
  unfold Session.isExpired
  rw [hw.hasToken_eq hp, hw.key, hw.clock]

theorem Wires.isDue_eq (hp : p.own.Swapped p.other) (hw : p.Wires w w') :
    w'.session.isDue w'.clock = w.session.isDue w.clock := by
  unfold Session.isDue
  rw [hw.hasToken_eq hp, hw.key, hw.clock]

theorem Wires.principal_eq (hp : p.own.Swapped p.other) (hw : p.Wires w w') :
    w'.session.principal = w.session.principal := by
  unfold Session.principal
  rw [hw.own, hw.other]
  rcases hp.cases with ⟨_, _, hown, hother, _⟩ | ⟨_, _, _, hown, hother⟩
  · rw [hown, hother]
  · rw [hown, hother]

/-- Both runs have something to show, or neither has. -/
theorem Wires.bearer? (hp : p.own.Swapped p.other) (hw : p.Wires w w') :
    Option.Rel p.Shown w.session.bearer? w'.session.bearer? := by
  unfold Session.bearer?
  rw [hw.own, hw.other, hw.key]
  rcases hp.cases with ⟨token, token', hown, hother, _⟩ | ⟨_, _, _, hown, hother⟩
  · rw [hown, hother]
    exact .some (.token hown hother)
  · rw [hown, hother]
    show Option.Rel p.Shown (w.session.key.map (·.value)) (w.session.key.map (·.value))
    cases w.session.key with
    | none => exact .none
    | some key => exact .some (.key hown)

end Secrets

namespace Client

open Exchange

variable {p : Secrets} {link : Link} {server' : Server}

theorem twins_mapFault {α : Type} {f : Fault → Fault} {x x' : Exchange α}
    (hx : p.Twins Eq x.run x'.run) : p.Twins Eq (mapFault f x).run (mapFault f x').run :=
  hx.orElse fun _ => .throw _

theorem twins_forget : p.Twins Eq forget.run forget.run := fun _ _ hw =>
  ⟨rfl, { hw with key := rfl }⟩

/-- What is shown at the end, once the session is as it has to be. -/
theorem twins_shown (hp : p.own.Swapped p.other) (f : Fault) :
    p.Twins (Results p.Shown) (do
        match (← get).session.bearer? with
        | some shown => return shown
        | none => throw f : Exchange String).run
      (do
        match (← get).session.bearer? with
        | some shown => return shown
        | none => throw f : Exchange String).run := by
  refine .getThen fun w w' hw => ?_
  have hshown := hw.bearer? hp
  generalize w.session.bearer? = shown, w'.session.bearer? = shown' at hshown ⊢
  cases hshown with
  | none => exact .pure (.error f)
  | some h => exact .pure (.ok h)

theorem twins_receive (link : Link) (server' : Server) (key : String) :
    p.Twins Eq (modify fun w => { w with
        session := w.session.receive w.clock key (some link.lifetime) (some link.margin) } :
          Exchange Unit).run
      (modify fun w => { w with
        session := w.session.receive w.clock key (some (link.on server').lifetime)
          (some (link.on server').margin) } : Exchange Unit).run := by
  intro w w' hw
  refine ⟨rfl, { hw with key := ?_ }⟩
  show (w'.session.receive w'.clock key _ _).key = (w.session.receive w.clock key _ _).key
  rw [hw.clock]
  rfl

section Replying
variable (hserver : p.SameReplies link.server server')

include hserver

theorem twins_logIn {username password password' : String}
    (hown : p.own = .login username password) (hother : p.other = .login username password') :
    p.Twins Eq (logIn link username password).run
      (logIn (link.on server') username password').run := by
  have hsend : p.Twins Eq (send link ⟨"/services/auth/login", .post⟩ _).run
      (send (link.on server') ⟨"/services/auth/login", .post⟩ _).run :=
    twins_send hserver (swaps_login hown hother link.baseUrl)
  refine (twins_mapFault hsend).andThen fun r => (twins_parsed _ _ r).andThen fun v => ?_
  split
  · exact .ok _
  · exact .throw _

variable (hp : p.own.Swapped p.other)

include hp

theorem twins_bearer :
    p.Twins (Results p.Shown) (bearer link).run (bearer (link.on server')).run := by
  unfold bearer
  refine .getThen fun w w' hw => ?_
  dsimp only
  rw [hw.isExpired_eq hp, hw.isDue_eq hp, hw.principal_eq hp, hw.own, hw.other]
  split
  · rcases hp.cases with ⟨_, _, hown, hother, _⟩ | ⟨_, _, _, hown, hother⟩
    · rw [hown, hother]
      exact (Twins.throw _).andThenTo (fun _ => twins_shown hp _) fun f => .error f
    · rw [hown, hother]
      exact (twins_logIn hserver hown hother).andThenTo (fun key =>
        (twins_receive link server' key).andThenTo (fun _ => twins_shown hp _) fun f => .error f)
        fun f => .error f
  · exact twins_shown hp _

/-- A call that is made with what is shown ends alike, and so does the call with its renewal. -/
theorem twins_renewing {α : Type} {call call' : String → Exchange α}
    (hcall : ∀ shown shown', p.Shown shown shown' →
      p.Twins Eq (call shown).run (call' shown').run) :
    p.Twins Eq (renewing link call).run (renewing (link.on server') call').run := by
  have hthen : ∀ {f f' : String → Exchange α},
      (∀ shown shown', p.Shown shown shown' → p.Twins Eq (f shown).run (f' shown').run) →
      p.Twins Eq (bearer link >>= f).run (bearer (link.on server') >>= f').run := by
    intro f f' hf
    rw [ExceptT.run_bind, ExceptT.run_bind]
    refine (twins_bearer hserver hp).bind fun o o' ho => ?_
    cases ho with
    | ok h => exact hf _ _ h
    | error f => exact .pure rfl
  refine hthen fun shown shown' hshown => (hcall shown shown' hshown).orElse fun f => ?_
  refine .getThen fun w w' hw => ?_
  rw [hw.hasToken_eq hp]
  split
  · exact twins_forget.andThen fun _ => hthen hcall
  · exact .throw _

/-- A call whose requests differ in the secrets only. -/
theorem twins_call {α : Type} (g : Except Fault Response → Except Fault α) (label : Label)
    {draft draft' : String → Draft} (hdraft : ∀ shown shown', p.Shown shown shown' →
      Option.Rel p.Swaps (draft shown).request? (draft' shown').request?) :
    p.Twins Eq
      (renewing link fun shown => ExceptT.mk (g <$> (send link label (draft shown)).run)).run
      (renewing (link.on server') fun shown =>
        ExceptT.mk (g <$> (send (link.on server') label (draft' shown)).run)).run :=
  twins_renewing hserver hp fun shown shown' hshown =>
    (twins_send hserver (hdraft shown shown' hshown)).map g

theorem twins_perform (op : Operation) :
    p.Twins Eq (op.perform link).run (op.perform (link.on server')).run := by
  rw [op.perform_eq, op.perform_eq]
  exact twins_call hserver hp op.outcome ⟨op.endpoint, op.method⟩ fun shown shown' hshown =>
    swaps_call hp op.method (op.address link.baseUrl) op.query hshown (.same op.form)

/-- A key is stored alike, whichever of the two it is. -/
theorem twins_createPassword {key key' : String} (hkeys : p.keys = some (key, key'))
    (app realm name : String) :
    p.Twins Eq (createPassword link app realm name key).run
      (createPassword (link.on server') app realm name key').run := by
  unfold createPassword
  rw [posting_eq, posting_eq]
  exact twins_call hserver hp _ _ fun shown shown' hshown =>
    swaps_call hp .post _ [jsonMode] hshown (.key hkeys)

end Replying

end Client

end AccelForm.Rest
