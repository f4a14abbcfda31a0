import AccelForm.Config.Loader
/-
  What it takes to put a configuration together

  A loader is asked for one thing after the other: a profile that is there or
  is not needed, a server, credentials, and numbers and names within their
  limits. What is put together is within all of them.
-/

namespace AccelForm.Config.Loader

/-- Nothing, if there is no problem. -/
def checked : Option ConfigError → Except ConfigError Unit
  | some problem => .error problem
  | none => .ok ()

/-- A value that must be there. -/
def needed {α : Type} (missing : ConfigError) : Option α → Except ConfigError α
  | some a => .ok a
  | none => .error missing

/-- The profile that is missing although it is needed. -/
def profileProblem? (l : Loader) : Option ConfigError :=
  if l.layer.isComplete then none else l.missingProfile.map .profileNotFound

/-- What is put together of a base address and credentials. -/
def assembled (l : Layer) (base : String) (credentials : Rest.Credentials) :
    Except ConfigError Config :=
  (checked (limitProblem? (connection l base))).bind fun _ =>
    (checked (targetProblem? (target l))).map fun _ =>
      ⟨connection l base, credentials, target l⟩

theorem build_eq (l : Loader) : l.build =
    (checked l.profileProblem?).bind fun _ =>
      ((needed .missingBaseUrl l.layer.baseUrl).bind normalBaseUrl).bind fun base =>
        (needed .missingCredentials (credentials? l.layer)).bind (assembled l.layer base) := by
  obtain ⟨surroundings, layer, profileName, path, missingProfile⟩ := l
  have hfound : (Loader.mk surroundings layer profileName path none).build =
      ((needed .missingBaseUrl layer.baseUrl).bind normalBaseUrl).bind fun base =>
        (needed .missingCredentials (credentials? layer)).bind (assembled layer base) := by
    unfold build assembled
    dsimp only
    cases layer.baseUrl with
    | none => rfl
    | some raw =>
      show (normalBaseUrl raw).bind _ = (normalBaseUrl raw).bind _
      refine congrArg _ (funext fun base => ?_)
      cases credentials? layer with
      | none => rfl
      | some c =>
        cases limitProblem? (connection layer base) with
        | some problem => rfl
        | none => cases targetProblem? (target layer) <;> rfl
  cases missingProfile with
  | none =>
    have hnone : profileProblem? ⟨surroundings, layer, profileName, path, none⟩ = none := by
      unfold profileProblem?
      split <;> rfl
    rw [hnone]
    exact hfound
  | some name =>
    unfold profileProblem?
    cases hcomplete : layer.isComplete with
    | true =>
      rw [if_pos rfl]
      refine Eq.trans ?_ hfound
      unfold build
      simp only [hcomplete]
      rfl
    | false =>
      unfold build
      simp only [hcomplete]
      rfl

theorem of_bind_eq_ok {ε α β : Type} {x : Except ε α} {f : α → Except ε β} {b : β}
    (h : x.bind f = .ok b) : ∃ a, x = .ok a ∧ f a = .ok b := by
  cases x with
  | error e => cases h
  | ok a => exact ⟨a, rfl, h⟩

theorem of_bind_eq_error {ε α β : Type} {x : Except ε α} {f : α → Except ε β} {e : ε}
    (h : x.bind f = .error e) : x = .error e ∨ ∃ a, x = .ok a ∧ f a = .error e := by
  cases x with
  | error e' =>
    cases h
    exact .inl rfl
  | ok a => exact .inr ⟨a, rfl, h⟩

theorem of_map_eq_ok {ε α β : Type} {x : Except ε α} {f : α → β} {b : β} (h : x.map f = .ok b) :
    ∃ a, x = .ok a ∧ f a = b := by
  cases x with
  | error _ => cases h
  | ok a => exact ⟨a, rfl, Except.ok.inj h⟩

theorem needed_eq_ok_iff {α : Type} {missing : ConfigError} {x : Option α} {a : α} :
    needed missing x = .ok a ↔ x = some a := by
  cases x <;> simp [needed]

theorem bind_eq_ok_iff {ε α β : Type} {x : Except ε α} {f : α → Except ε β} {b : β} :
    x.bind f = .ok b ↔ ∃ a, x = .ok a ∧ f a = .ok b :=
  ⟨of_bind_eq_ok, fun ⟨_, hx, hf⟩ => hx ▸ hf⟩

theorem checked_eq_ok_iff {problem? : Option ConfigError} {u : Unit} :
    checked problem? = .ok u ↔ problem? = none := by
  cases problem? <;> simp [checked]

theorem assembled_eq_ok_iff {l : Layer} {base : String} {credentials : Rest.Credentials}
    {c : Config} : assembled l base credentials = .ok c ↔
      limitProblem? (connection l base) = none ∧ targetProblem? (target l) = none ∧
        c = ⟨connection l base, credentials, target l⟩ := by
  unfold assembled
  cases limitProblem? (connection l base) with
  | some problem => simp [checked, Except.bind]
  | none =>
    cases targetProblem? (target l) with
    | some problem => simp [checked, Except.bind, Except.map]
    | none => simp [checked, Except.bind, Except.map, eq_comm]

/-- What a loader has to give for a configuration, and which configuration that is. -/
theorem build_eq_ok_iff {l : Loader} {c : Config} : l.build = .ok c ↔
    l.profileProblem? = none ∧ ∃ raw base credentials, l.layer.baseUrl = some raw ∧
      normalBaseUrl raw = .ok base ∧ credentials? l.layer = some credentials ∧
      limitProblem? (connection l.layer base) = none ∧ targetProblem? (target l.layer) = none ∧
      c = ⟨connection l.layer base, credentials, target l.layer⟩ := by
  simp only [build_eq, bind_eq_ok_iff, checked_eq_ok_iff, needed_eq_ok_iff, assembled_eq_ok_iff]
  constructor
  · rintro ⟨_, hprofile, base, ⟨raw, hraw, hbase⟩, credentials, hcredentials, hrest⟩
    exact ⟨hprofile, raw, base, credentials, hraw, hbase, hcredentials, hrest⟩
  · rintro ⟨hprofile, raw, base, credentials, hraw, hbase, hcredentials, hrest⟩
    exact ⟨(), hprofile, base, ⟨raw, hraw, hbase⟩, credentials, hcredentials, hrest⟩

/-- A configuration comes from the settings of its loader, and is within all limits. -/
theorem of_build_eq_ok {l : Loader} {c : Config} (h : l.build = .ok c) :
    ∃ base, c.connection = connection l.layer base ∧ credentials? l.layer = some c.credentials ∧
      c.target = target l.layer ∧ limitProblem? c.connection = none ∧
      targetProblem? c.target = none := by
  obtain ⟨_, _, base, credentials, _, _, hcredentials, hlimit, htarget, rfl⟩ := build_eq_ok_iff.1 h
  exact ⟨base, rfl, hcredentials, rfl, hlimit, htarget⟩

theorem limitProblem?_eq_none_iff {c : Connection} : limitProblem? c = none ↔
    (1 ≤ c.timeout.wholeSeconds ∧ c.timeout.wholeSeconds ≤ maxTimeout) ∧
      c.maxRetries ≤ retryLimit ∧
      c.renewalMargin < c.sessionLifetime ∧ c.sessionLifetime ≤ maxLifetime := by
  unfold limitProblem?
  dsimp only
  split
  · next h =>
    rw [Bool.or_eq_true, decide_eq_true_eq, decide_eq_true_eq] at h
    exact iff_of_false (Option.some_ne_none _) (by omega)
  · next h =>
    rw [Bool.or_eq_true, decide_eq_true_eq, decide_eq_true_eq] at h
    split
    · exact iff_of_false (Option.some_ne_none _) (by omega)
    · split
      · next h =>
        rw [Bool.or_eq_true, decide_eq_true_eq, decide_eq_true_eq] at h
        exact iff_of_false (Option.some_ne_none _) (by omega)
      · next h =>
        rw [Bool.or_eq_true, decide_eq_true_eq, decide_eq_true_eq] at h
        exact iff_of_true rfl (by omega)

/-- A session outlives the margin before its end in which it is renewed. -/
theorem margin_lt_of_limits {c : Connection} (h : limitProblem? c = none) :
    c.renewalMargin < c.sessionLifetime := (limitProblem?_eq_none_iff.1 h).2.2.1

end AccelForm.Config.Loader
