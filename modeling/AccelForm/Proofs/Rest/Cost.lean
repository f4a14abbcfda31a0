import AccelForm.Rest.Client
/-
  What exchanges cost

  `Cost m x n` says that a step adds at most `n` to a measure of the wire,
  whatever the server answers. A measure counts attempts (`Meters`) if it rises
  by a fixed amount when one begins and by another one when its request reaches
  the server, and by nothing else; the attempts that are recorded and the
  requests that were sent are two such measures. An exchange then costs as much
  as its attempts, of which there is one more than there are retries.
-/

namespace AccelForm.Rest

/-- A step adds at most a number to a measure of the wire. -/
def Cost (m : Wire → Nat) {β : Type} (x : StateM Wire β) (n : Nat) : Prop :=
  ∀ w, m (x.run w).2 ≤ m w + n

namespace Cost
variable {m : Wire → Nat} {ε α β : Type} {a b n : Nat}

theorem mono {x : StateM Wire β} (hx : Cost m x a) (h : a ≤ b) : Cost m x b := fun w =>
  Nat.le_trans (hx w) (Nat.add_le_add_left h _)

theorem le_of_run {x : StateM Wire β} (hx : Cost m x n) {w w' : Wire} {v : β}
    (h : x.run w = (v, w')) : m w' ≤ m w + n := by
  have hw := hx w
  rwa [h] at hw

theorem pure (v : β) : Cost m (Pure.pure v : StateM Wire β) n := fun w => Nat.le_add_right (m w) n

theorem bind {x : StateM Wire α} {f : α → StateM Wire β} (hx : Cost m x a)
    (hf : ∀ v, Cost m (f v) b) : Cost m (x >>= f) (a + b) := by
  intro w
  have hfirst := hx w
  have hrest := hf (x.run w).1 (x.run w).2
  show m ((f (x.run w).1).run (x.run w).2).2 ≤ m w + (a + b)
  omega

theorem ok (v : α) : Cost m (Pure.pure v : ExceptT ε (StateM Wire) α).run n := pure _

theorem throw (e : ε) : Cost m (MonadExcept.throw e : ExceptT ε (StateM Wire) α).run n := pure _

theorem andThen {x : ExceptT ε (StateM Wire) α} {f : α → ExceptT ε (StateM Wire) β}
    (hx : Cost m x.run a) (hf : ∀ v, Cost m (f v).run b) : Cost m (x >>= f).run (a + b) := by
  rw [ExceptT.run_bind]
  refine hx.bind fun result => ?_
  cases result with
  | ok v => exact hf v
  | error e => exact pure _

/-- What follows a step without cost bears the cost alone. -/
theorem freeThen {x : ExceptT ε (StateM Wire) α} {f : α → ExceptT ε (StateM Wire) β}
    (hx : Cost m x.run 0) (hf : ∀ v, Cost m (f v).run n) : Cost m (x >>= f).run n :=
  (hx.andThen hf).mono (Nat.le_of_eq (Nat.zero_add n))

/-- What is followed by steps without cost bears the cost alone. -/
theorem thenFree {x : ExceptT ε (StateM Wire) α} {f : α → ExceptT ε (StateM Wire) β}
    (hx : Cost m x.run n) (hf : ∀ v, Cost m (f v).run 0) : Cost m (x >>= f).run n :=
  (hx.andThen hf).mono (Nat.le_of_eq (Nat.add_zero n))

theorem orElse {x : ExceptT ε (StateM Wire) α} {g : ε → ExceptT ε (StateM Wire) α}
    (hx : Cost m x.run a) (hg : ∀ e, Cost m (g e).run b) : Cost m (tryCatch x g).run (a + b) := by
  rw [ExceptT.run_tryCatch]
  refine hx.bind fun result => ?_
  cases result with
  | ok v => exact pure _
  | error e => exact hg e

/-- What is caught without cost bears the cost alone. -/
theorem orElseFree {x : ExceptT ε (StateM Wire) α} {g : ε → ExceptT ε (StateM Wire) α}
    (hx : Cost m x.run n) (hg : ∀ e, Cost m (g e).run 0) : Cost m (tryCatch x g).run n :=
  (hx.orElse hg).mono (Nat.le_of_eq (Nat.add_zero n))

end Cost

/-- A measure that rises by `a` when an attempt begins, by `b` when its request reaches the server,
and by nothing else. -/
structure Meters (m : Wire → Nat) (a b : Nat) : Prop where
  record (link : Link) (label : Label) (h : Happening) :
    Cost m (Exchange.record link label h).run (if h = .request then a else 0)
  note (r : Request) : Cost m (Exchange.note r).run b
  frame (w : Wire) (clock : Nat) (session : Session) :
    m { w with clock := clock, session := session } = m w

/-- The attempts that were recorded. -/
def Wire.tries (w : Wire) : Nat := w.events.countP (·.happening = .request)

theorem meters_sent : Meters (·.sent.length) 0 1 where
  record link label h w := by
    show (if link.metered then _ else w : Wire).sent.length ≤ _
    split <;> exact Nat.le_add_right _ _
  note r w := Nat.le_of_eq (List.length_append ..)
  frame _ _ _ := rfl

theorem meters_tries : Meters Wire.tries 1 0 where
  record link label h w := by
    show (if link.metered then _ else w : Wire).tries ≤ _
    split
    · unfold Wire.tries
      rw [List.countP_append, List.countP_singleton]
      simp
    · exact Nat.le_add_right _ _
  note r w := Nat.le_refl _
  frame _ _ _ := rfl

variable {m : Wire → Nat} {a b : Nat}

namespace Exchange

section Metered
variable (h : Meters m a b) (link : Link) (label : Label) (d : Draft)

include h

theorem cost_pause (t : Duration) : Cost m (pause t).run 0 := fun w =>
  Nat.le_of_eq (h.frame w _ w.session)

theorem cost_record (happening : Happening) (hother : happening ≠ .request) :
    Cost m (record link label happening).run 0 := by
  have hrecord := h.record link label happening
  rwa [if_neg hother] at hrecord

theorem cost_breakOff (elapsed : Duration) (breakdown : Breakdown) :
    Cost m (breakOff link label elapsed breakdown).run 0 :=
  (cost_record h link label (.duration elapsed none) (by simp)).freeThen fun _ => .throw _

theorem cost_noteIf (reached : Bool) (r : Request) : Cost m (noteIf reached r).run b := by
  cases reached with
  | true => exact h.note r
  | false => exact .ok _

theorem cost_deliver (r : Request) : Cost m (deliver link label r).run b := by
  refine Cost.freeThen (fun _ => Nat.le_refl _) fun w => ?_
  refine (cost_pause h _).freeThen fun _ => (cost_noteIf h _ r).thenFree fun _ => ?_
  cases (link.server w.sent r).outcome r with
  | ok a =>
    exact (cost_record h link label (.duration _ (some a.status)) (by simp)).freeThen fun _ => .ok _
  | error breakdown => exact cost_breakOff h link label _ breakdown

theorem cost_attempt : Cost m (attempt link label d).run (a + b) := by
  have hrequest := h.record link label .request
  rw [if_pos rfl] at hrequest
  refine hrequest.andThen fun _ => ?_
  cases d.request? with
  | none => exact (cost_breakOff h link label _ _).mono (Nat.zero_le _)
  | some r => exact cost_deliver h link label r

/-- As many attempts are made as are left, and one more. -/
theorem cost_attempts (made left : Nat) :
    Cost m (attempts link label d made left).run ((left + 1) * (a + b)) := by
  induction left generalizing made with
  | zero =>
    rw [Nat.zero_add, Nat.one_mul]
    refine (cost_attempt h link label d).thenFree fun r => ?_
    split
    · exact .ok _
    · split <;> exact .throw _
  | succ left ih =>
    have hnext : Cost m (attempts link label d made (left + 1)).run
        (a + b + (left + 1) * (a + b)) := by
      refine (cost_attempt h link label d).andThen fun r => ?_
      split
      · exact .ok _
      · split
        · exact (cost_record h link label (.retry (made + 1)) (by simp)).freeThen fun _ =>
            (cost_pause h _).freeThen fun _ => ih (made + 1)
        · exact .throw _
    exact hnext.mono (Nat.le_of_eq (by rw [Nat.succ_mul (left + 1), Nat.add_comm]))

theorem cost_send : Cost m (send link label d).run ((link.maxRetries + 1) * (a + b)) :=
  (cost_attempts h link label d 0 _).orElseFree fun f =>
    (cost_record h link label (.fault f.category) (by simp)).freeThen fun _ => .throw _

end Metered

end Exchange

end AccelForm.Rest
