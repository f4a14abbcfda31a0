import AccelForm.Rest.Client
/-
  What a step leaves on the wire

  A request reads or it modifies; a login reads. `Alike P x x'` says of two
  steps, which may call different servers, that the first one only adds
  requests of the kind `P` to those that were sent, and that the second one
  does exactly the same wherever nothing else was sent before. With one step
  on both sides it says what the step sends (`Sends`). The relation goes
  through every way of putting steps together, so that one lemma for each call
  gives both what the call sends and that it cannot tell the servers apart.
-/

namespace AccelForm.Rest

/-! ## Requests by what they do -/

def Draft.login (base username password : String) : Draft where
  method := .post
  address := base ++ "/services/auth/login"
  query := [jsonMode]
  bearer := none
  form := [("username", username), ("password", password)]

theorem Draft.of_request?_eq_some {d : Draft} {r : Request} (h : d.request? = some r) :
    r.method = d.method ∧ r.authorization = d.authorization ∧ r.form = d.form := by
  unfold Draft.request? at h
  split at h
  · obtain ⟨url, _, rfl⟩ := Option.map_eq_some_iff.1 h
    exact ⟨rfl, rfl, rfl⟩
  · cases h

namespace Request

/-- Whether a request is a login. -/
def IsLogin (r : Request) : Prop :=
  ∃ base username password, (Draft.login base username password).request? = some r

/-- Whether a request leaves what the server keeps as it is. -/
def IsRead (r : Request) : Prop := r.method = .get ∨ r.IsLogin

/-- Whether a request modifies what the server keeps: a deletion, or a post that is no login. -/
def Modifies (r : Request) : Prop := r.method = .delete ∨ (r.method = .post ∧ ¬ r.IsLogin)

variable {r : Request}

theorem IsLogin.method (h : r.IsLogin) : r.method = .post := by
  obtain ⟨base, username, password, h⟩ := h
  exact (Draft.of_request?_eq_some h).1

theorem IsLogin.authorization (h : r.IsLogin) : r.authorization = none := by
  obtain ⟨base, username, password, h⟩ := h
  exact (Draft.of_request?_eq_some h).2.1

theorem isRead_iff : r.IsRead ↔ ¬ r.Modifies := by
  unfold IsRead Modifies
  cases hm : r.method with
  | get => simp
  | post => simp
  | delete =>
    have hno : ¬ r.IsLogin := by
      intro h
      rw [h.method] at hm
      cases hm
    simp [hno]

end Request

/-! ## Steps -/

/-- Two steps, of which the first sends only requests of a kind, and the second does the same
wherever only such requests were sent before. -/
structure Alike (P : Request → Prop) {β : Type} (x x' : StateM Wire β) : Prop where
  sends : ∀ w, ∃ l, (x.run w).2.sent = w.sent ++ l ∧ ∀ r ∈ l, P r
  agrees : ∀ w, (∀ r ∈ w.sent, P r) → x'.run w = x.run w

/-- A step that sends only requests of a kind. -/
abbrev Sends (P : Request → Prop) {β : Type} (x : StateM Wire β) : Prop := Alike P x x

namespace Alike
variable {P Q : Request → Prop} {α β : Type} {ε : Type}

theorem mono (h : ∀ r, P r → Q r) {x : StateM Wire β} (hx : Sends P x) : Sends Q x where
  sends w := by
    obtain ⟨l, hl, hp⟩ := hx.sends w
    exact ⟨l, hl, fun r hr => h r (hp r hr)⟩
  agrees _ _ := rfl

/-- What was sent is of the kind after a step, if it was before. -/
theorem sent_of_sent {x x' : StateM Wire β} (h : Alike P x x') {w : Wire}
    (hw : ∀ r ∈ w.sent, P r) : ∀ r ∈ (x.run w).2.sent, P r := by
  obtain ⟨l, hl, hp⟩ := h.sends w
  rw [hl]
  intro r hr
  exact (List.mem_append.1 hr).elim (hw r) (hp r)

theorem quiet {x : StateM Wire β} (h : ∀ w, (x.run w).2.sent = w.sent) : Sends P x where
  sends w := ⟨[], by rw [h, List.append_nil], by simp⟩
  agrees _ _ := rfl

theorem pure (b : β) : Sends P (Pure.pure b : StateM Wire β) := quiet fun _ => rfl

theorem bind {x x' : StateM Wire α} {f f' : α → StateM Wire β} (hx : Alike P x x')
    (hf : ∀ a, Alike P (f a) (f' a)) : Alike P (x >>= f) (x' >>= f') where
  sends w := by
    obtain ⟨l, hl, hp⟩ := hx.sends w
    obtain ⟨l', hl', hp'⟩ := (hf (x.run w).1).sends (x.run w).2
    refine ⟨l ++ l', ?_, fun r hr => (List.mem_append.1 hr).elim (hp r) (hp' r)⟩
    rw [← List.append_assoc, ← hl]
    exact hl'
  agrees w hw := by
    have hx' := hx.agrees w hw
    have hf' := (hf (x.run w).1).agrees (x.run w).2 (hx.sent_of_sent hw)
    show (f' (x'.run w).1).run (x'.run w).2 = (f (x.run w).1).run (x.run w).2
    rw [hx', hf']

/-! ### Steps that may fail -/

section Failing
variable {x x' : ExceptT ε (StateM Wire) α} {f f' : α → ExceptT ε (StateM Wire) β}

theorem ok (a : α) : Sends P (Pure.pure a : ExceptT ε (StateM Wire) α).run := pure _

theorem throw (e : ε) : Sends P (MonadExcept.throw e : ExceptT ε (StateM Wire) α).run := pure _

theorem andThen (hx : Alike P x.run x'.run) (hf : ∀ a, Alike P (f a).run (f' a).run) :
    Alike P (x >>= f).run (x' >>= f').run := by
  rw [ExceptT.run_bind, ExceptT.run_bind]
  refine hx.bind fun result => ?_
  cases result with
  | ok a => exact hf a
  | error e => exact pure _

theorem orElse {g g' : ε → ExceptT ε (StateM Wire) α} (hx : Alike P x.run x'.run)
    (hg : ∀ e, Alike P (g e).run (g' e).run) :
    Alike P (tryCatch x g).run (tryCatch x' g').run := by
  rw [ExceptT.run_tryCatch, ExceptT.run_tryCatch]
  refine hx.bind fun result => ?_
  cases result with
  | ok a => exact pure _
  | error e => exact hg e

theorem get_andThen {f f' : Wire → ExceptT ε (StateM Wire) β}
    (hf : ∀ w, Alike P (f w).run (f' w).run) :
    Alike P (get >>= f : ExceptT ε (StateM Wire) β).run (get >>= f').run :=
  andThen (quiet fun _ => rfl) hf

theorem lift {x x' : StateM Wire α} (hx : Alike P x x') :
    Alike P (ExceptT.lift x : ExceptT ε (StateM Wire) α).run (ExceptT.lift x').run := by
  have hbind : Alike P (x >>= fun a => Pure.pure (Except.ok a : Except ε α))
      (x' >>= fun a => Pure.pure (.ok a)) := hx.bind fun _ => pure _
  exact hbind

theorem map {g : α → β} (hx : Alike P x.run x'.run) : Alike P (g <$> x).run (g <$> x').run :=
  andThen hx fun a => ok (g a)

end Failing

end Alike

end AccelForm.Rest
