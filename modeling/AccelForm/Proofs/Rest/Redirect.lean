import AccelForm.Form.Remote
import AccelForm.Proofs.Rest.Cost
import AccelForm.Proofs.Rest.Trial
/-
  What redirections cost

  A single request is the last one of its passage, or it is redirected and
  another one follows (`follow_cases`); what holds of the last one and is kept
  by those before it holds of every passage (`follow_induct`). So a passage has
  at most one single request more than redirections are followed, it has none
  exactly if its request reaches no server, and it ends within the time limit:
  no answer is later than the timeout of the connection (`elapsed_over_le`).
  What a request adds to the trail is its passage (`trail_deliver`), and the
  length of the trail is a measure of the wire like the number of requests.
-/

namespace AccelForm.Rest

namespace Network
variable (net : Network) (limit : Duration)

/-! ## One passage -/

section Follow
variable (left : Nat) (past : List Request) (landed : Option Url) (spent : Nat) (r : Request)

theorem follow_cases :
    (∃ reply, ∃ nanos ≤ limit.nanos, net.follow limit left past landed spent r =
      ⟨if reply.isReached then [r] else [], ⟨reply, ⟨nanos⟩, landed⟩⟩) ∨
    ∃ n now next, left = n + 1 ∧ net.follow limit left past landed spent r =
      let rest := net.follow limit n (past ++ [r]) (some next.url) now next
      ⟨r :: rest.requests, rest.answer⟩ := by
  unfold follow
  obtain ⟨echo, elapsed⟩ := net past r
  dsimp only
  split
  · exact .inl ⟨.overdue echo.isReached, _, Nat.le_refl _, rfl⟩
  · next hlate =>
    have htime := Nat.le_of_not_lt hlate
    cases echo with
    | response status requestId body =>
      exact .inl ⟨.response status requestId body, _, htime, rfl⟩
    | dropped => exact .inl ⟨.dropped, _, htime, rfl⟩
    | unreachable => exact .inl ⟨.unreachable, _, htime, rfl⟩
    | redirect next =>
      cases left with
      | zero => exact .inl ⟨.astray, _, htime, rfl⟩
      | succ n =>
        dsimp only
        split
        · exact .inr ⟨n, spent + elapsed.nanos, next, rfl, by rw [follow]⟩
        · exact .inl ⟨.barred next.url, _, htime, rfl⟩

variable {P : Nat → Option Url → Passage → Prop}

theorem follow_induct
    (last : ∀ left landed r (reply : Reply), ∀ nanos ≤ limit.nanos,
      P left landed ⟨if reply.isReached then [r] else [], ⟨reply, ⟨nanos⟩, landed⟩⟩)
    (next : ∀ left landed r url rest, P left (some url) rest →
      P (left + 1) landed ⟨r :: rest.requests, rest.answer⟩) :
    P left landed (net.follow limit left past landed spent r) := by
  induction left generalizing past landed spent r with
  | zero =>
    obtain ⟨reply, nanos, htime, h⟩ | ⟨_, _, _, hleft, _⟩ :=
      net.follow_cases limit 0 past landed spent r
    · rw [h]
      exact last _ _ _ _ _ htime
    · cases hleft
  | succ left ih =>
    obtain ⟨reply, nanos, htime, h⟩ | ⟨_, now, q, hleft, h⟩ :=
      net.follow_cases limit (left + 1) past landed spent r
    · rw [h]
      exact last _ _ _ _ _ htime
    · cases hleft
      rw [h]
      exact next _ _ _ _ _ (ih ..)

theorem length_follow_le :
    (net.follow limit left past landed spent r).requests.length ≤ left + 1 := by
  apply net.follow_induct limit left past landed spent r (P := fun left _ p =>
    p.requests.length ≤ left + 1)
  · intro left landed r reply nanos _
    cases reply.isReached <;> simp
  · intro left landed r url rest hrest
    exact Nat.succ_le_succ hrest

/-- What is followed by other requests has reached a server, the one that redirected it. -/
theorem isReached_follow : (net.follow limit left past landed spent r).answer.isReached =
    (landed.isSome || !(net.follow limit left past landed spent r).requests.isEmpty) := by
  apply net.follow_induct limit left past landed spent r (P := fun _ landed p =>
    p.answer.isReached = (landed.isSome || !p.requests.isEmpty))
  · intro left landed r reply nanos _
    unfold Answer.isReached
    cases reply.isReached <;> rfl
  · intro left landed r url rest hrest
    rw [hrest]
    simp

theorem elapsed_follow_le :
    (net.follow limit left past landed spent r).answer.elapsed.nanos ≤ limit.nanos := by
  apply net.follow_induct limit left past landed spent r (P := fun _ _ p =>
    p.answer.elapsed.nanos ≤ limit.nanos)
  · intro left landed r reply nanos htime
    exact htime
  · intro left landed r url rest hrest
    exact hrest

end Follow

variable (past : List Request) (r : Request)

theorem length_pass_le : (net.pass limit past r).requests.length ≤ redirectLimit + 1 :=
  net.length_follow_le ..

/-- A request takes single requests exactly if it reaches a server. -/
theorem isReached_pass : (net.pass limit past r).answer.isReached =
    !(net.pass limit past r).requests.isEmpty :=
  (net.isReached_follow ..).trans (Bool.false_or _)

/-- No answer is later than the timeout of the connection, whatever redirections it took. -/
theorem elapsed_over_le (c : Config.Connection) :
    ((c.over net).server past r).elapsed.nanos ≤ c.timeout.nanos := net.elapsed_follow_le ..

/-! ## The trail -/

theorem trail_concat (made : List Request) : net.trail limit (made ++ [r]) =
    net.trail limit made ++ (net.pass limit (net.trail limit made) r).requests := by
  unfold trail
  rw [List.foldl_append]
  rfl

theorem meters_trail : Meters (fun w => (net.trail limit w.sent).length) 0 (redirectLimit + 1) where
  record link label h w := by
    show (net.trail limit (if link.metered then _ else w : Wire).sent).length ≤ _
    split <;> exact Nat.le_add_right _ _
  note r w := by
    show (net.trail limit (w.sent ++ [r])).length ≤ _
    rw [trail_concat, List.length_append]
    exact Nat.add_le_add_left (net.length_pass_le limit _ r) _
  frame _ _ _ := rfl

/-- On a network, a request that is handed to the server adds its passage to the trail. -/
theorem trail_deliver {link : Link} (hlink : link.server = net.server limit) (label : Label)
    (w : Wire) :
    net.trail limit ((Exchange.deliver link label r).run.run w).2.sent =
      net.trail limit w.sent ++ (net.pass limit (net.trail limit w.sent) r).requests := by
  have hreached := net.isReached_pass limit (net.trail limit w.sent) r
  rw [Exchange.deliver_run, Exchange.run_respond, hlink]
  show net.trail limit (w.sent ++ (if (net.server limit w.sent r).isReached then [r] else [])) = _
  unfold server
  rw [hreached]
  cases hempty : (net.pass limit (net.trail limit w.sent) r).requests with
  | nil =>
    show net.trail limit (w.sent ++ []) = net.trail limit w.sent ++ []
    rw [List.append_nil, List.append_nil]
  | cons q l =>
    have hconcat := net.trail_concat limit r w.sent
    rw [hempty] at hconcat
    exact hconcat

end Network

end AccelForm.Rest
