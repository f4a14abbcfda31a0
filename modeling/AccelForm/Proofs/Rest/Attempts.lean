import AccelForm.Proofs.Rest.Grant
/-
  The attempts of a request

  A request is sent again as long as the server puts it off and attempts are
  left; the attempt at which this ends is the last one (`EndAt`). What a whole
  run of attempts comes to follows from the attempts one by one (`run_send`):
  the result is that of the last attempt, unless it was put off after others,
  and what is sent, recorded and waited for are those of all attempts and of
  the pauses between them.
-/

namespace AccelForm.Rest

/-- Whether a reply asks for another attempt. -/
def Reply.isPutOff : Reply → Bool
  | .response status _ _ => isTransientStatus status
  | _ => false

/-- A status that asks for another attempt is none of success. -/
theorem Response.isSuccess_of_isTransientStatus {a : Response}
    (h : isTransientStatus a.status = true) : a.isSuccess = false := by
  refine Bool.eq_false_iff.2 fun hsuccess => ?_
  have hstatus := Response.isSuccess_iff.1 hsuccess
  have hmem : a.status ∈ transientStatuses := by simpa [isTransientStatus] using h
  simp only [transientStatuses, List.mem_cons, List.not_mem_nil, or_false] at hmem
  omega

/-- A status that asks for another attempt is a refusal in its own right. -/
theorem Response.fault_of_isTransientStatus {a : Response} (h : isTransientStatus a.status = true) :
    a.fault = .refused a.status a.url a.saying (a.requestId.filter isShown) := by
  refine if_neg fun hconflict => ?_
  rw [hconflict] at h
  cases h

/-- What an outcome comes to that is final: a success, or a fault. -/
def settled : Except Breakdown Response → Except Fault Response
  | .ok a => if a.isSuccess then .ok a else .error a.fault
  | .error b => .error (.transport b)

/-! ## The last attempt -/

namespace Trial

def isPutOff (t : Trial) : Bool := t.status?.any isTransientStatus

/-- What an attempt comes to if it is the last one, after `made` others. -/
def ending (made : Nat) (t : Trial) : Except Fault Response :=
  if t.isPutOff && 0 < made then .error (.retriesExceeded (made + 1)) else settled t.outcome

/-- Which attempt is the last one: the first that is not put off, or the one after which none is
left. -/
structure EndAt (trials : Nat → Trial) (limit n : Nat) : Prop where
  le : n ≤ limit
  before (i : Nat) (h : i < n) : (trials i).isPutOff = true
  final : n = limit ∨ (trials n).isPutOff = false

variable {trials : Nat → Trial} {left n : Nat} {t : Trial} {a : Response}

theorem EndAt.zero (h : left = 0 ∨ (trials 0).isPutOff = false) : EndAt trials left 0 :=
  ⟨Nat.zero_le _, fun i hi => absurd hi (Nat.not_lt_zero i), h.imp_left Eq.symm⟩

theorem endAt_succ_iff : EndAt trials (left + 1) (n + 1) ↔
    (trials 0).isPutOff = true ∧ EndAt (fun i => trials (i + 1)) left n := by
  constructor
  · intro h
    exact ⟨h.before 0 (Nat.zero_lt_succ n), Nat.le_of_succ_le_succ h.le,
      fun i hi => h.before (i + 1) (Nat.succ_lt_succ hi), h.final.imp_left Nat.succ.inj⟩
  · rintro ⟨hput, h⟩
    refine ⟨Nat.succ_le_succ h.le, fun i hi => ?_, h.final.imp_left (congrArg _)⟩
    cases i with
    | zero => exact hput
    | succ i => exact h.before i (Nat.lt_of_succ_lt_succ hi)

theorem exists_endAt (trials : Nat → Trial) (limit : Nat) : ∃ n, EndAt trials limit n := by
  induction limit generalizing trials with
  | zero => exact ⟨0, .zero (.inl rfl)⟩
  | succ left ih =>
    cases hput : (trials 0).isPutOff with
    | false => exact ⟨0, .zero (.inr hput)⟩
    | true =>
      obtain ⟨n, hn⟩ := ih fun i => trials (i + 1)
      exact ⟨n + 1, endAt_succ_iff.2 ⟨hput, hn⟩⟩

/-! ### What the last attempt comes to -/

theorem isPutOff_of_ok (h : t.outcome = .ok a) : t.isPutOff = isTransientStatus a.status := by
  unfold isPutOff status?
  rw [h]
  rfl

theorem isPutOff_of_error {b : Breakdown} (h : t.outcome = .error b) : t.isPutOff = false := by
  unfold isPutOff status?
  rw [h]
  rfl

theorem isPutOff_ofAnswer (r : Request) (answer : Answer) :
    (ofAnswer r answer).isPutOff = answer.reply.isPutOff := by
  obtain ⟨reply, elapsed, landed⟩ := answer
  cases reply <;> rfl

theorem exists_of_isPutOff (h : t.isPutOff = true) :
    ∃ a, t.outcome = .ok a ∧ isTransientStatus a.status = true := by
  cases houtcome : t.outcome with
  | ok a => exact ⟨a, rfl, isPutOff_of_ok houtcome ▸ h⟩
  | error b =>
    rw [isPutOff_of_error houtcome] at h
    cases h

theorem isReached_of_isPutOff {answer : Answer} (h : answer.reply.isPutOff = true) :
    answer.isReached = true := by
  obtain ⟨reply, elapsed, landed⟩ := answer
  cases reply with
  | response => exact Bool.or_true _
  | _ => cases h

/-- Where the request is put off, it has reached the server. -/
theorem reached_of_isPutOff {r : Request} {answer : Answer}
    (h : (ofAnswer r answer).isPutOff = true) : (ofAnswer r answer).reached = [r] := by
  rw [isPutOff_ofAnswer] at h
  exact if_pos (isReached_of_isPutOff h)

theorem ending_of_error {b : Breakdown} (h : t.outcome = .error b) (made : Nat) :
    t.ending made = .error (.transport b) := by
  unfold ending
  rw [isPutOff_of_error h, h]
  rfl

theorem ending_of_final (h : t.isPutOff = false) (made : Nat) :
    t.ending made = settled t.outcome := by
  unfold ending
  rw [h]
  rfl

/-- A success is handed on, after others as well: its status asks for no other attempt. -/
theorem ending_of_ok (h : t.outcome = .ok a) (made : Nat) : t.ending made =
    if a.isSuccess then .ok a
    else if isTransientStatus a.status && 0 < made then .error (.retriesExceeded (made + 1))
    else .error a.fault := by
  unfold ending settled
  rw [isPutOff_of_ok h, h]
  cases htransient : isTransientStatus a.status with
  | false => simp
  | true => simp [Response.isSuccess_of_isTransientStatus htransient]

/-- Where attempts are used up, this is said. -/
theorem ending_of_isPutOff (h : t.isPutOff = true) {made : Nat} (hmade : 0 < made) :
    t.ending made = .error (.retriesExceeded (made + 1)) := by
  unfold ending
  rw [h, Bool.true_and, if_pos (decide_eq_true hmade)]

/-- Where there is only one attempt, its response is refused. -/
theorem ending_zero_of_isPutOff (h : t.isPutOff = true) :
    ∃ a, t.outcome = .ok a ∧ isTransientStatus a.status = true ∧ t.ending 0 =
      .error (.refused a.status a.url a.saying (a.requestId.filter Response.isShown)) := by
  obtain ⟨a, ha, htransient⟩ := exists_of_isPutOff h
  refine ⟨a, ha, htransient, ?_⟩
  rw [ending_of_ok ha, Response.isSuccess_of_isTransientStatus htransient,
    ← Response.fault_of_isTransientStatus htransient]
  simp

/-! ## All attempts -/

/-- What is recorded of attempts of which `n` are put off, after `made` others. -/
def log (made : Nat) (trials : Nat → Trial) (n : Nat) : List Happening :=
  ((List.range n).flatMap fun i => (trials i).happenings ++ [.retry (made + i + 1)]) ++
    (trials n).happenings

/-- The nanoseconds that attempts take of which `n` are put off, after `made` others. -/
def spent (made : Nat) (trials : Nat → Trial) : Nat → Nat
  | 0 => (trials 0).elapsed.nanos
  | n + 1 => (trials 0).elapsed.nanos + (Exchange.backoff made).nanos +
      spent (made + 1) (fun i => trials (i + 1)) n

theorem log_succ (made : Nat) (trials : Nat → Trial) (n : Nat) :
    log made trials (n + 1) = (trials 0).happenings ++
      (.retry (made + 1) :: log (made + 1) (fun i => trials (i + 1)) n) := by
  have hshift : ∀ i, made + (i + 1) + 1 = made + 1 + i + 1 := fun i => by omega
  simp [log, List.range_succ_eq_map, List.flatMap_map, hshift]

end Trial

/-- After an attempt that is put off, the others go on from what was sent. -/
theorem Draft.trials_succ {d : Draft} {server : Server} {past : List Request}
    (h : (d.trials server past 0).isPutOff = true) :
    d.trials server (past ++ (d.trials server past 0).reached) =
      fun i => d.trials server past (i + 1) := by
  cases hr : d.request? with
  | none =>
    rw [trials_of_none hr] at h
    cases h
  | some r =>
    rw [trials_of_some hr] at h
    rw [trials_of_some hr, trials_of_some hr, Trial.reached_of_isPutOff h]
    unfold Server.answers
    simp only [List.append_assoc, List.singleton_append, List.replicate_succ]

/-- The wire after attempts of which `n` are put off, after `made` others. -/
def Wire.afterAll (link : Link) (label : Label) (made : Nat) (trials : Nat → Trial) (n : Nat)
    (w : Wire) : Wire where
  sent := w.sent ++ (List.range (n + 1)).flatMap fun i => (trials i).reached
  events := w.events ++ link.recorded label (Trial.log made trials n)
  clock := w.clock + Trial.spent made trials n
  session := w.session

namespace Wire
variable (link : Link) (label : Label) (made : Nat) (trials : Nat → Trial) (n : Nat) (w : Wire)

theorem afterAll_zero : w.afterAll link label made trials 0 = w.after link label (trials 0) := by
  simp [afterAll, after, Trial.log, Trial.spent]

/-- The wire after an attempt that is put off, and the pause after it. -/
def paused (t : Trial) : Wire where
  sent := (w.after link label t).sent
  events := (w.after link label t).events ++ link.recorded label [.retry (made + 1)]
  clock := (w.after link label t).clock + (Exchange.backoff made).nanos
  session := w.session

theorem afterAll_succ : w.afterAll link label made trials (n + 1) =
    (w.paused link label made (trials 0)).afterAll link label (made + 1)
      (fun i => trials (i + 1)) n := by
  have hrange : (List.range (n + 1 + 1)).flatMap (fun i => (trials i).reached) =
      (trials 0).reached ++ (List.range (n + 1)).flatMap fun i => (trials (i + 1)).reached := by
    rw [List.range_succ_eq_map, List.flatMap_cons, List.flatMap_map]
  unfold afterAll paused after
  rw [hrange, Trial.log_succ, Trial.spent]
  simp only [List.append_assoc, ← Link.recorded_append, Nat.add_assoc, List.singleton_append]

end Wire

namespace Exchange
variable {link : Link} {label : Label} {d : Draft} {w : Wire}

/-- The last attempt, after which nothing is left to do but to say what it comes to. -/
theorem run_attempt_bind {f : Response → Exchange Response} {made : Nat}
    (hf : ∀ a w', (d.trials link.server w.sent 0).outcome = .ok a →
      (f a).run.run w' = ((d.trials link.server w.sent 0).ending made, w')) :
    (attempt link label d >>= f).run.run w = ((d.trials link.server w.sent 0).ending made,
      w.after link label (d.trials link.server w.sent 0)) := by
  have hattempt := run_attempt link label d w
  cases houtcome : (d.trials link.server w.sent 0).outcome with
  | error b =>
    rw [houtcome] at hattempt
    rw [run_bind_of_error hattempt, Trial.ending_of_error houtcome]
  | ok a =>
    rw [houtcome] at hattempt
    rw [run_bind_of_ok hattempt]
    exact hf a _ houtcome

/-- A run of attempts in full. -/
theorem run_attempts (label : Label) (made : Nat) {left n : Nat}
    (hn : Trial.EndAt (d.trials link.server w.sent) left n) :
    (attempts link label d made left).run.run w =
      ((d.trials link.server w.sent n).ending (made + n),
        w.afterAll link label made (d.trials link.server w.sent) n) := by
  induction left generalizing made n w with
  | zero =>
    obtain rfl := Nat.le_zero.1 hn.le
    rw [Wire.afterAll_zero, Nat.add_zero]
    refine run_attempt_bind fun a w' ha => ?_
    rw [Trial.ending_of_ok ha]
    cases a.isSuccess with
    | true => rfl
    | false => cases isTransientStatus a.status && decide (0 < made) <;> rfl
  | succ left ih =>
    cases n with
    | zero =>
      have hfinal := hn.final.resolve_left (Nat.succ_ne_zero left).symm
      rw [Wire.afterAll_zero, Nat.add_zero]
      refine run_attempt_bind fun a w' ha => ?_
      rw [Trial.isPutOff_of_ok ha] at hfinal
      rw [Trial.ending_of_ok ha, hfinal]
      cases a.isSuccess <;> rfl
    | succ n =>
      -- put off: a pause, and the attempts that are left
      obtain ⟨hput, hrest⟩ := Trial.endAt_succ_iff.1 hn
      obtain ⟨a, ha, htransient⟩ := Trial.exists_of_isPutOff hput
      have hfailed : ¬ a.isSuccess = true :=
        Bool.eq_false_iff.1 (Response.isSuccess_of_isTransientStatus htransient)
      have hattempt := run_attempt link label d w
      rw [ha] at hattempt
      have hshift : d.trials link.server
          (w.paused link label made (d.trials link.server w.sent 0)).sent =
            fun i => d.trials link.server w.sent (i + 1) := Draft.trials_succ hput
      rw [← hshift] at hrest
      have hnext := ih (made + 1) hrest
      rw [hshift, Nat.add_right_comm] at hnext
      rw [attempts, run_bind_of_ok hattempt, if_neg hfailed, if_pos htransient,
        run_bind_of_ok (run_record _ _), run_bind_of_ok (run_pause _ _), Wire.afterAll_succ]
      exact hnext

end Exchange

/-! ## A request until there is a final outcome -/

/-- What is recorded of a result. -/
def faults {α : Type} : Except Fault α → List Happening
  | .ok _ => []
  | .error f => [.fault f.category]

namespace Exchange

/-- What sending a request comes to, in full. -/
theorem run_send (link : Link) (label : Label) {d : Draft} {w : Wire} {n : Nat}
    (hn : Trial.EndAt (d.trials link.server w.sent) link.maxRetries n) :
    (send link label d).run.run w = ((d.trials link.server w.sent n).ending n,
      { w.afterAll link label 0 (d.trials link.server w.sent) n with
        events := w.events ++ link.recorded label (Trial.log 0 (d.trials link.server w.sent) n ++
          faults ((d.trials link.server w.sent n).ending n)) }) := by
  have hrun := run_attempts label 0 hn
  rw [Nat.zero_add] at hrun
  unfold send
  rw [Link.recorded_append, ← List.append_assoc]
  cases hresult : (d.trials link.server w.sent n).ending n with
  | ok a =>
    rw [hresult] at hrun
    have hnone : link.recorded label (faults (.ok a : Except Fault Response)) = [] := by
      unfold Link.recorded
      split <;> rfl
    rw [run_tryCatch_of_ok hrun, hnone, List.append_nil]
    rfl
  | error f =>
    rw [hresult] at hrun
    rw [run_tryCatch_of_error hrun, run_bind_of_ok (run_record _ _)]
    rfl

end Exchange

/-! ## How often a request is sent, and what it brings -/

/-- Fewer than 64 doublings stay within 64 bits. -/
theorem Exchange.backoff_lt {i : Nat} (h : i < 64) :
    (backoff i).wholeSeconds < UInt64.size := by
  have hseconds : (backoff i).wholeSeconds = Nat.pow 2 i :=
    Nat.mul_div_cancel _ (by decide)
  rw [hseconds]
  exact Nat.pow_lt_pow_right (by decide) h

section Exact
variable (link : Link) (label : Label) {d : Draft} {r : Request} (hr : d.request? = some r)
  (w : Wire)

include hr

/-- The last attempt is known by the answers alone. -/
theorem endAt_of_answers {n : Nat} (hle : n ≤ link.maxRetries)
    (hbefore : ∀ i < n, (link.server.answers w.sent r i).reply.isPutOff = true)
    (hfinal : n = link.maxRetries ∨ (link.server.answers w.sent r n).reply.isPutOff = false) :
    Trial.EndAt (d.trials link.server w.sent) link.maxRetries n := by
  rw [Draft.trials_of_some hr]
  exact ⟨hle, fun i hi => (Trial.isPutOff_ofAnswer r _).trans (hbefore i hi),
    hfinal.imp_right (Trial.isPutOff_ofAnswer r _).trans⟩

/-- All attempts send the request, except that the last one may not reach the server. -/
theorem sent_of_endAt {n : Nat}
    (hn : Trial.EndAt (d.trials link.server w.sent) link.maxRetries n) :
    ((Exchange.send link label d).run.run w).2.sent = w.sent ++ List.replicate
      (if (link.server.answers w.sent r n).isReached then n + 1 else n) r := by
  have hbefore : ∀ i ∈ List.range n, (d.trials link.server w.sent i).reached = [r] := by
    intro i hi
    have hput := hn.before i (List.mem_range.1 hi)
    rw [Draft.trials_of_some hr] at hput ⊢
    exact Trial.reached_of_isPutOff hput
  have hreached : (List.range n).flatMap (fun i => (d.trials link.server w.sent i).reached) =
      List.replicate n r := by
    rw [List.flatMap_def, List.map_congr_left hbefore, List.map_const', List.length_range,
      List.flatten_replicate_singleton]
  rw [Exchange.run_send link label hn]
  show w.sent ++ (List.range (n + 1)).flatMap _ = _
  rw [List.range_succ, List.flatMap_append, hreached, Draft.trials_of_some hr]
  unfold Trial.ofAnswer
  split
  · simp [*, List.replicate_succ']
  · simp [*]

/-- An answer that does not put the request off is the result. -/
theorem send_of_final {i : Nat} (hi : i ≤ link.maxRetries)
    (hbefore : ∀ j < i, (link.server.answers w.sent r j).reply.isPutOff = true)
    (hfinal : (link.server.answers w.sent r i).reply.isPutOff = false) :
    let run := (Exchange.send link label d).run.run w
    run.1 = settled ((link.server.answers w.sent r i).outcome r) ∧
    run.2.sent = w.sent ++ List.replicate
      (if (link.server.answers w.sent r i).isReached then i + 1 else i) r := by
  intro run
  have hn := endAt_of_answers link hr w hi hbefore (.inr hfinal)
  rw [← Trial.isPutOff_ofAnswer r] at hfinal
  have hresult : run = _ := Exchange.run_send link label hn
  refine ⟨?_, sent_of_endAt link label hr w hn⟩
  rw [hresult, Draft.trials_of_some hr, Trial.ending_of_final hfinal]
  rfl

/-- Where all answers put the request off, it is sent as often as it can be. -/
theorem send_of_all_putOff
    (hall : ∀ i ≤ link.maxRetries, (link.server.answers w.sent r i).reply.isPutOff = true) :
    let run := (Exchange.send link label d).run.run w
    let last := Trial.ofAnswer r (link.server.answers w.sent r link.maxRetries)
    last.isPutOff = true ∧ run.1 = last.ending link.maxRetries ∧
      run.2.sent = w.sent ++ List.replicate (link.maxRetries + 1) r := by
  intro run last
  have hn := endAt_of_answers link hr w (Nat.le_refl _)
    (fun i hi => hall i (Nat.le_of_lt hi)) (.inl rfl)
  have hput := hall link.maxRetries (Nat.le_refl _)
  have hreached := Trial.isReached_of_isPutOff hput
  have hresult : run = _ := Exchange.run_send link label hn
  have hsent := sent_of_endAt link label hr w hn
  rw [if_pos hreached] at hsent
  refine ⟨(Trial.isPutOff_ofAnswer r _).trans hput, ?_, hsent⟩
  rw [hresult, Draft.trials_of_some hr]

/-- The loop of attempts is exact: the request is sent until an answer does not put it off, at most
once more than there are retries, and the result is that answer; where all answers put the request
off, the retries are exceeded, or with no retries the one answer is the refusal. No pause is too
long for 64 bits with up to 64 retries. -/
theorem send_exact :
    let answers := link.server.answers w.sent r
    let run := (Exchange.send link label d).run.run w
    (∀ i ≤ link.maxRetries, (∀ j < i, (answers j).reply.isPutOff = true) →
      (answers i).reply.isPutOff = false →
      run.1 = settled ((answers i).outcome r) ∧
      run.2.sent = w.sent ++ List.replicate (if (answers i).isReached then i + 1 else i) r) ∧
    ((∀ i ≤ link.maxRetries, (answers i).reply.isPutOff = true) →
      run.2.sent = w.sent ++ List.replicate (link.maxRetries + 1) r ∧
      (0 < link.maxRetries → run.1 = .error (.retriesExceeded (link.maxRetries + 1))) ∧
      (link.maxRetries = 0 → ∃ a, (answers 0).outcome r = .ok a ∧
        run.1 = .error (.refused a.status a.url a.saying
          (a.requestId.filter Response.isShown)))) ∧
    (link.maxRetries ≤ 64 →
      ∀ i < link.maxRetries, (Exchange.backoff i).wholeSeconds < UInt64.size) := by
  intro answers run
  refine ⟨fun i hi hbefore hfinal => send_of_final link label hr w hi hbefore hfinal,
    fun hall => ?_, fun hle i hi => Exchange.backoff_lt (Nat.lt_of_lt_of_le hi hle)⟩
  obtain ⟨hput, hresult, hsent⟩ := send_of_all_putOff link label hr w hall
  refine ⟨hsent, fun hpos => hresult.trans (Trial.ending_of_isPutOff hput hpos), fun hzero => ?_⟩
  rw [hzero] at hput hresult
  obtain ⟨a, ha, _, hending⟩ := Trial.ending_zero_of_isPutOff hput
  exact ⟨a, ha, hresult.trans hending⟩

end Exact

/-- The server that gives replies in order, whatever it is asked. Any replies can come so. -/
def Server.replaying (replies : Nat → Reply) : Server := fun past _ =>
  ⟨replies past.length, ⟨1⟩, none⟩

theorem Server.answers_replaying (replies : Nat → Reply) (r : Request) (i : Nat) :
    ((Server.replaying replies).answers [] r i).reply = replies i := by
  simp [answers, replaying]

/-- Two replies that put a request off, and then none at all. -/
def droppedThird : Nat → Reply
  | 0 => .response 503 none ""
  | 1 => .response 429 (some "a") "slow down"
  | _ => .dropped

/-- A link with three retries to a server that drops the third request. -/
def droppedThirdLink : Link :=
  ⟨"https://h", 3, .ofSeconds 120, .ofSeconds 60, false, .replaying droppedThird⟩

/-- A request that shows nothing. -/
def plainRequest : Request :=
  ⟨.get, ⟨"https", none, .domain "h", none, "/x", none, none⟩, none, []⟩

def plainDraft : Draft := ⟨.get, "https://h/x", [], none, []⟩

/-- The third attempt is the last one: a request that was dropped is not sent again. -/
theorem send_exact_dropped :
    plainDraft.request? = some plainRequest ∧
    ((Exchange.send droppedThirdLink ⟨"/x", .get⟩ plainDraft).run.run (.start (.token "t"))).1 =
      .error (.transport (.interrupted "https://h/x")) ∧
    ((Exchange.send droppedThirdLink ⟨"/x", .get⟩ plainDraft).run.run
      (.start (.token "t"))).2.sent = [plainRequest, plainRequest, plainRequest] := by
  have hr : plainDraft.request? = some plainRequest := by decide +kernel
  have hreply : ∀ i, (droppedThirdLink.server.answers (Wire.start (.token "t")).sent
      plainRequest i).reply = droppedThird i := Server.answers_replaying droppedThird plainRequest
  have hbefore : ∀ j < 2, (droppedThirdLink.server.answers (Wire.start (.token "t")).sent
      plainRequest j).reply.isPutOff = true := by
    intro j hj
    rw [hreply]
    match j, hj with
    | 0, _ => rfl
    | 1, _ => rfl
  obtain ⟨hresult, hsent⟩ := (send_exact droppedThirdLink ⟨"/x", .get⟩ hr (.start (.token "t"))).1 2
    (by decide) hbefore (by rw [hreply]; rfl)
  have hurl : plainRequest.url.text = "https://h/x" := by decide +kernel
  have hreached : (droppedThirdLink.server.answers (Wire.start (.token "t")).sent
      plainRequest 2).isReached = true := by
    unfold Answer.isReached
    rw [hreply]
    exact Bool.or_true _
  have houtcome : (droppedThirdLink.server.answers (Wire.start (.token "t")).sent
      plainRequest 2).outcome plainRequest = .error (.interrupted "https://h/x") := by
    unfold Answer.outcome
    rw [hreply, ← hurl]
    rfl
  rw [houtcome] at hresult
  rw [if_pos hreached] at hsent
  exact ⟨hr, hresult, hsent.trans rfl⟩

/-! ## What is recorded of it -/

/-- Every attempt is recorded once when it is made and once with its duration and its status, if
there is one; between two attempts the retry is recorded by its number; in the end the fault is, if
the result is one. If nothing is recorded, all else is the same. -/
theorem send_recorded (link : Link) (label : Label) (d : Draft) (w : Wire) :
    let trials := d.trials link.server w.sent
    let event := Event.mk label.endpoint label.method.word
    let metered := (Exchange.send { link with metered := true } label d).run.run w
    let unmetered := (Exchange.send { link with metered := false } label d).run.run w
    (∃ n, Trial.EndAt trials link.maxRetries n ∧
      metered.2.sent = w.sent ++ (List.range (n + 1)).flatMap (fun i => (trials i).reached) ∧
      metered.2.events = w.events ++
        (List.range n).flatMap (fun i => [event .request,
          event (.duration (trials i).elapsed (trials i).status?), event (.retry (i + 1))]) ++
        [event .request, event (.duration (trials n).elapsed (trials n).status?)] ++
        (match metered.1 with
          | .ok _ => []
          | .error f => [event (.fault f.category)])) ∧
    (∀ i, (event (.duration (trials i).elapsed (trials i).status?)).labels =
      [("endpoint", label.endpoint), ("method", label.method.word),
        ("status", match (trials i).outcome with
          | .ok a => toString a.status
          | .error _ => "error")]) ∧
    unmetered = (metered.1, { metered.2 with events := w.events }) := by
  intro trials event metered unmetered
  obtain ⟨n, hn⟩ := Trial.exists_endAt trials link.maxRetries
  have hmetered : metered = _ := Exchange.run_send { link with metered := true } label hn
  have hunmetered : unmetered = _ := Exchange.run_send { link with metered := false } label hn
  refine ⟨⟨n, hn, ?_, ?_⟩, fun i => ?_, ?_⟩
  · rw [hmetered]
    rfl
  · rw [hmetered]
    show w.events ++ (({ link with metered := true } : Link).recorded label (Trial.log 0 trials n ++
      faults ((trials n).ending n))) = _
    unfold Link.recorded Trial.log Trial.happenings
    rw [if_pos rfl]
    cases (trials n).ending n <;> simp [faults, event, List.map_flatMap]
  · cases houtcome : (trials i).outcome <;>
      simp [Event.labels, Event.ownLabels, event, Trial.status?, houtcome, Except.toOption]
  · rw [hmetered, hunmetered]
    simp [Link.recorded, Wire.afterAll]

end AccelForm.Rest
