import AccelForm.Proofs.Rest.Calls
/-
  One attempt

  An attempt brings a response or breaks down; it takes its time, and its
  request reaches the server or not. All of this is a function of the draft and
  of what the server was sent before (`Trial`), so that what an attempt does to
  the wire is known in full (`run_attempt`), events included.
-/

namespace AccelForm.Rest

/-! ## Steps one after the other -/

namespace Exchange
variable {α β : Type} {x : Exchange α} {f : α → Exchange β} {g : Fault → Exchange α} {w w' : Wire}

theorem run_bind_of_ok {a : α} (h : x.run.run w = (.ok a, w')) :
    (x >>= f).run.run w = (f a).run.run w' := by
  rw [ExceptT.run_bind, StateT.run_bind, h]
  rfl

theorem run_get_bind {f : Wire → Exchange β} : (get >>= f).run.run w = (f w).run.run w := rfl

theorem run_bind_of_error {e : Fault} (h : x.run.run w = (.error e, w')) :
    (x >>= f).run.run w = (.error e, w') := by
  rw [ExceptT.run_bind, StateT.run_bind, h]
  rfl

theorem run_tryCatch_of_ok {a : α} (h : x.run.run w = (.ok a, w')) :
    (tryCatch x g).run.run w = (.ok a, w') := by
  rw [ExceptT.run_tryCatch, StateT.run_bind, h]
  rfl

theorem run_tryCatch_of_error {e : Fault} (h : x.run.run w = (.error e, w')) :
    (tryCatch x g).run.run w = (g e).run.run w' := by
  rw [ExceptT.run_tryCatch, StateT.run_bind, h]
  rfl

end Exchange

/-! ## What an attempt comes to -/

/-- The answers that a server gives to a request that it is sent again and again. -/
def Server.answers (server : Server) (past : List Request) (r : Request) (i : Nat) : Answer :=
  server (past ++ List.replicate i r) r

namespace Answer
variable {answer : Answer} {status : Nat} {requestId : Option String} {body : String}

/-- A response comes only for a request that has reached a server. -/
theorem isReached_of_response (h : answer.reply = .response status requestId body) :
    answer.isReached = true := by
  unfold isReached
  rw [h]
  exact Bool.or_true _

theorem outcome_of_response (h : answer.reply = .response status requestId body) (r : Request) :
    answer.outcome r = .ok ⟨status, (answer.landed.getD r.url).text, requestId, body⟩ := by
  unfold outcome
  rw [h]

theorem reply_of_outcome {r : Request} {a : Response} (h : answer.outcome r = .ok a) :
    answer.reply = .response a.status a.requestId a.body := by
  obtain ⟨reply, elapsed, landed⟩ := answer
  cases reply with
  | response =>
    cases h
    rfl
  | _ => cases h

end Answer

/-- What comes of an attempt, how long it takes, and its request if that reaches the server. -/
structure Trial where
  outcome : Except Breakdown Response
  elapsed : Duration
  reached : List Request

namespace Trial

/-- The attempt at which a request meets an answer. -/
def ofAnswer (r : Request) (a : Answer) : Trial where
  outcome := a.outcome r
  elapsed := a.elapsed
  reached := if a.isReached then [r] else []

/-- The attempt at which there is no request. -/
def unsendable : Trial := ⟨.error .unsendable, ⟨0⟩, []⟩

def status? (t : Trial) : Option Nat := t.outcome.toOption.map (·.status)

/-- What is recorded of an attempt. -/
def happenings (t : Trial) : List Happening := [.request, .duration t.elapsed t.status?]

end Trial

/-- The attempts with a draft one after the other. -/
def Draft.trials (d : Draft) (server : Server) (past : List Request) (i : Nat) : Trial :=
  match d.request? with
  | some r => .ofAnswer r (server.answers past r i)
  | none => .unsendable

theorem Draft.trials_of_some {d : Draft} {r : Request} (h : d.request? = some r)
    (server : Server) (past : List Request) :
    d.trials server past = fun i => .ofAnswer r (server.answers past r i) := by
  unfold trials
  rw [h]

theorem Draft.trials_of_none {d : Draft} (h : d.request? = none) (server : Server)
    (past : List Request) : d.trials server past = fun _ => .unsendable := by
  unfold trials
  rw [h]

/-- What is recorded of happenings at an endpoint. -/
def Link.recorded (link : Link) (label : Label) (hs : List Happening) : List Event :=
  if link.metered then hs.map (Event.mk label.endpoint label.method.word) else []

theorem Link.recorded_append (link : Link) (label : Label) (hs hs' : List Happening) :
    link.recorded label (hs ++ hs') = link.recorded label hs ++ link.recorded label hs' := by
  unfold recorded
  split
  · exact List.map_append
  · rfl

def Wire.after (link : Link) (label : Label) (t : Trial) (w : Wire) : Wire where
  sent := w.sent ++ t.reached
  events := w.events ++ link.recorded label t.happenings
  clock := w.clock + t.elapsed.nanos
  session := w.session

/-! ## The steps of an attempt -/

namespace Exchange
variable {link : Link} {label : Label}

theorem run_record (h : Happening) (w : Wire) : (record link label h).run.run w =
    (.ok (), { w with events := w.events ++ link.recorded label [h] }) := by
  obtain ⟨baseUrl, maxRetries, lifetime, margin, metered, server⟩ := link
  cases metered with
  | true => rfl
  | false =>
    rw [Link.recorded, if_neg (by simp), List.append_nil]
    rfl

theorem run_pause (t : Duration) (w : Wire) :
    (pause t).run.run w = (.ok (), { w with clock := w.clock + t.nanos }) := rfl

theorem run_noteIf (reached : Bool) (r : Request) (w : Wire) : (noteIf reached r).run.run w =
    (.ok (), { w with sent := w.sent ++ if reached then [r] else [] }) := by
  cases reached with
  | true => rfl
  | false =>
    show _ = (_, Wire.mk (w.sent ++ []) _ _ _)
    rw [List.append_nil]
    rfl

theorem run_breakOff (elapsed : Duration) (b : Breakdown) (w : Wire) :
    (breakOff link label elapsed b).run.run w = (.error (.transport b),
      { w with events := w.events ++ link.recorded label [.duration elapsed none] }) := by
  unfold breakOff
  rw [run_bind_of_ok (run_record _ w)]
  rfl

theorem run_respond (r : Request) (a : Answer) (w : Wire) :
    (respond link label r a).run.run w = ((a.outcome r).mapError .transport,
      ⟨w.sent ++ (Trial.ofAnswer r a).reached,
        w.events ++ link.recorded label [.duration a.elapsed (Trial.ofAnswer r a).status?],
        w.clock + a.elapsed.nanos, w.session⟩) := by
  unfold respond Trial.ofAnswer Trial.status?
  rw [run_bind_of_ok (run_pause _ w), run_bind_of_ok (run_noteIf _ r _)]
  cases a.outcome r with
  | ok response =>
    dsimp only
    rw [run_bind_of_ok (run_record _ _)]
    rfl
  | error b =>
    dsimp only
    rw [run_breakOff]
    rfl

/-- An attempt in full. -/
theorem run_attempt (link : Link) (label : Label) (d : Draft) (w : Wire) :
    (attempt link label d).run.run w =
    ((d.trials link.server w.sent 0).outcome.mapError .transport,
      w.after link label (d.trials link.server w.sent 0)) := by
  unfold attempt
  rw [run_bind_of_ok (run_record _ w)]
  cases hr : d.request? with
  | none =>
    dsimp only
    rw [run_breakOff, List.append_assoc, ← Link.recorded_append, Draft.trials_of_none hr]
    show _ = (_, Wire.mk (w.sent ++ []) _ _ _)
    rw [List.append_nil]
    rfl
  | some r =>
    dsimp only
    rw [deliver_run, run_respond, List.append_assoc, ← Link.recorded_append,
      Draft.trials_of_some hr]
    simp [Wire.after, Server.answers, Trial.happenings, Trial.ofAnswer]

end Exchange

end AccelForm.Rest
