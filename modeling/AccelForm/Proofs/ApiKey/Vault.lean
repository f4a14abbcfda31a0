import AccelForm.ApiKey
import AccelForm.Rest.Client
/-
  Stores that hold keys

  What a store holds is a map from realms and names to keys (`Vault`). A store
  guards its contents if every call either does to the map what it says or
  fails and leaves the map alone (`Guards`); when a call fails is left open.
  It keeps them if no call fails but for the map (`Keeps`).

  To save a key over another one takes three calls, and each of them can fail.
  What a save that failed has done is told here in full (`contents_of_failed_save`):
  nothing, unless the old key was deleted and the new one then refused. In that
  one course the name is left without a key.
-/

namespace AccelForm

/-- The keys by realm and name. -/
abbrev Vault := String → String → Option String

namespace Vault

def empty : Vault := fun _ _ => none

/-- The vault with the entry of one name set, or taken out. -/
def set (v : Vault) (realm name : String) (entry : Option String) : Vault :=
  fun r n => if r = realm ∧ n = name then entry else v r n

variable {v : Vault} {realm name r n : String} {entry : Option String}

@[simp] theorem set_self (v : Vault) (realm name : String) (entry : Option String) :
    v.set realm name entry realm name = entry := if_pos ⟨rfl, rfl⟩

theorem set_of_ne (h : ¬ (r = realm ∧ n = name)) : v.set realm name entry r n = v r n := if_neg h

@[simp] theorem set_set (v : Vault) (realm name : String) (entry entry' : Option String) :
    (v.set realm name entry).set realm name entry' = v.set realm name entry' := by
  funext r n
  by_cases h : r = realm ∧ n = name <;> simp [set, h]

theorem set_eq_self (v : Vault) (realm name : String) : v.set realm name (v realm name) = v := by
  funext r n
  by_cases h : r = realm ∧ n = name
  · obtain ⟨rfl, rfl⟩ := h
    exact set_self _ _ _ _
  · exact set_of_ne h

/-! ## What the calls do to a vault -/

/-- What is not found where there is no entry. -/
def missing (realm name : String) : String :=
  "credential '" ++ Rest.passwordEntity realm name ++ "'"

/-- An entry as it is found. -/
def stored (realm name key : String) : Rest.StoredPassword :=
  ⟨Rest.passwordEntity realm name, some realm, name, key⟩

/-- Creates an entry where there is none. -/
def create (realm name key : String) (v : Vault) : Except Rest.Fault Unit × Vault :=
  match v realm name with
  | some _ => (.error (.conflict (Rest.passwordEntity realm name)), v)
  | none => (.ok (), v.set realm name (some key))

theorem create_of_some {held : String} (h : v realm name = some held) (key : String) :
    create realm name key v = (.error (.conflict (Rest.passwordEntity realm name)), v) := by
  rw [create, h]

theorem create_of_none (h : v realm name = none) (key : String) :
    create realm name key v = (.ok (), v.set realm name (some key)) := by
  rw [create, h]

/-- Finds the entry that there is. -/
def find (realm name : String) (v : Vault) :
    Except Rest.Fault (List Rest.StoredPassword) × Vault :=
  match v realm name with
  | some key => (.ok [stored realm name key], v)
  | none => (.error (.notFound (missing realm name)), v)

theorem find_of_some {held : String} (h : v realm name = some held) :
    find realm name v = (.ok [stored realm name held], v) := by
  rw [find, h]

theorem find_of_none (h : v realm name = none) :
    find realm name v = (.error (.notFound (missing realm name)), v) := by
  rw [find, h]

/-- Deletes the entry that there is. -/
def delete (realm name : String) (v : Vault) : Except Rest.Fault Unit × Vault :=
  match v realm name with
  | some _ => (.ok (), v.set realm name none)
  | none => (.error (.notFound (missing realm name)), v)

theorem delete_of_some {held : String} (h : v realm name = some held) :
    delete realm name v = (.ok (), v.set realm name none) := by
  rw [delete, h]

theorem delete_of_none (h : v realm name = none) :
    delete realm name v = (.error (.notFound (missing realm name)), v) := by
  rw [delete, h]

end Vault

namespace PasswordStore
variable {σ : Type}

/-- The store does to its contents what its calls say, or a call fails and they stay. -/
structure Guards (store : PasswordStore (StateM σ)) (contents : σ → Vault) : Prop where
  create_ok {realm name key : String} {s s' : σ} :
    (store.create realm name key).run s = (.ok (), s') →
      contents s realm name = none ∧ contents s' = (contents s).set realm name (some key)
  create_error {realm name key : String} {s s' : σ} {fault : Rest.Fault} :
    (store.create realm name key).run s = (.error fault, s') → contents s' = contents s
  delete_ok {realm name : String} {s s' : σ} :
    (store.delete realm name).run s = (.ok (), s') →
      contents s realm name ≠ none ∧ contents s' = (contents s).set realm name none
  delete_error {realm name : String} {s s' : σ} {fault : Rest.Fault} :
    (store.delete realm name).run s = (.error fault, s') → contents s' = contents s
  lookup {realm name : String} {s s' : σ} {result : Except Rest.Fault (List Rest.StoredPassword)} :
    (store.lookup realm name).run s = (result, s') → contents s' = contents s

/-- The store behaves as its contents do: it refuses to create what it holds, finds nothing where
it holds nothing, and does what it is asked otherwise. -/
structure Keeps (store : PasswordStore (StateM σ)) (contents : σ → Vault) : Prop
    extends Guards store contents where
  create_absent {realm name : String} {s : σ} (key : String) : contents s realm name = none →
    ((store.create realm name key).run s).1 = .ok ()
  create_held {realm name : String} {s : σ} (key : String) : contents s realm name ≠ none →
    ∃ text, ((store.create realm name key).run s).1 = .error (.conflict text)
  delete_held {realm name : String} {s : σ} : contents s realm name ≠ none →
    ((store.delete realm name).run s).1 = .ok ()
  delete_absent {realm name : String} {s : σ} : contents s realm name = none →
    ∃ text, ((store.delete realm name).run s).1 = .error (.notFound text)
  lookup_held {realm name key : String} {s : σ} : contents s realm name = some key →
    ∃ entry, ((store.lookup realm name).run s).1 = .ok [entry] ∧ entry.clearPassword = key
  lookup_absent {realm name : String} {s : σ} : contents s realm name = none →
    ∃ text, ((store.lookup realm name).run s).1 = .error (.notFound text)

/-! ## A store with a vault -/

/-- A counted call: it fails if a failure is given for its number, and takes its step otherwise. -/
def counted {α : Type} (failure : Nat → Option Rest.Fault)
    (step : Vault → Except Rest.Fault α × Vault) : StateM (Nat × Vault) (Except Rest.Fault α) :=
  modifyGet fun (n, v) =>
    match failure n with
    | some fault => (.error fault, n + 1, v)
    | none => ((step v).1, n + 1, (step v).2)

/-- The store that has a vault for its state and counts the calls made to it. The calls for which a
failure is given fail with it. -/
def counting (failure : Nat → Option Rest.Fault) : PasswordStore (StateM (Nat × Vault)) where
  create realm name key := counted failure (Vault.create realm name key)
  lookup realm name := counted failure (Vault.find realm name)
  delete realm name := counted failure (Vault.delete realm name)

section Counted
variable {α : Type} {failure : Nat → Option Rest.Fault}
  {step : Vault → Except Rest.Fault α × Vault} {s s' : Nat × Vault}

/-- A counted call has failed and left the vault alone, or it has taken its step. -/
theorem run_counted {result : Except Rest.Fault α}
    (h : (counted failure step).run s = (result, s')) :
    ((∃ fault, result = .error fault) ∧ s'.2 = s.2) ∨ step s.2 = (result, s'.2) := by
  obtain ⟨n, v⟩ := s
  change (match failure n with
    | some fault => (.error fault, n + 1, v)
    | none => ((step v).1, n + 1, (step v).2)) = (result, s') at h
  cases hf : failure n with
  | some fault =>
    rw [hf] at h
    cases h
    exact .inl ⟨⟨fault, rfl⟩, rfl⟩
  | none =>
    rw [hf] at h
    cases h
    exact .inr rfl

theorem run_counted_ok {a : α} (h : (counted failure step).run s = (.ok a, s')) :
    step s.2 = (.ok a, s'.2) := by
  rcases run_counted h with ⟨⟨_, hcontra⟩, _⟩ | hstep
  · cases hcontra
  · exact hstep

/-- A call that fails leaves the vault alone if its step does. -/
theorem run_counted_error {fault : Rest.Fault}
    (h : (counted failure step).run s = (.error fault, s'))
    (hstep : ∀ v', step s.2 = (.error fault, v') → v' = s.2) : s'.2 = s.2 := by
  rcases run_counted h with ⟨_, hvault⟩ | htaken
  · exact hvault
  · exact hstep _ htaken

end Counted

/-- Whichever of its calls fail, the store guards its vault. -/
theorem guards_counting (failure : Nat → Option Rest.Fault) :
    (counting failure).Guards Prod.snd where
  create_ok {realm name key s s'} h := by
    have hstep := run_counted_ok h
    cases hheld : s.2 realm name with
    | none =>
      rw [Vault.create_of_none hheld] at hstep
      exact ⟨rfl, (Prod.mk.inj hstep).2.symm⟩
    | some held =>
      rw [Vault.create_of_some hheld] at hstep
      cases hstep
  create_error {realm name key s s' fault} h := by
    refine run_counted_error h fun v' hstep => ?_
    cases hheld : s.2 realm name with
    | none =>
      rw [Vault.create_of_none hheld] at hstep
      cases hstep
    | some held =>
      rw [Vault.create_of_some hheld] at hstep
      exact (Prod.mk.inj hstep).2.symm
  delete_ok {realm name s s'} h := by
    have hstep := run_counted_ok h
    cases hheld : s.2 realm name with
    | none =>
      rw [Vault.delete_of_none hheld] at hstep
      cases hstep
    | some held =>
      rw [Vault.delete_of_some hheld] at hstep
      exact ⟨nofun, (Prod.mk.inj hstep).2.symm⟩
  delete_error {realm name s s' fault} h := by
    refine run_counted_error h fun v' hstep => ?_
    cases hheld : s.2 realm name with
    | none =>
      rw [Vault.delete_of_none hheld] at hstep
      exact (Prod.mk.inj hstep).2.symm
    | some held =>
      rw [Vault.delete_of_some hheld] at hstep
      cases hstep
  lookup {realm name s s' result} h := by
    rcases run_counted h with ⟨_, hvault⟩ | hstep
    · exact hvault
    · cases hheld : s.2 realm name with
      | none =>
        rw [Vault.find_of_none hheld] at hstep
        exact (Prod.mk.inj hstep).2.symm
      | some held =>
        rw [Vault.find_of_some hheld] at hstep
        exact (Prod.mk.inj hstep).2.symm

/-- If no call fails by itself, the store keeps its vault. -/
theorem keeps_counting : (counting fun _ => none).Keeps Prod.snd where
  toGuards := guards_counting _
  create_absent key h := congrArg Prod.fst (Vault.create_of_none h key)
  create_held key h := by
    obtain ⟨held, hheld⟩ := Option.ne_none_iff_exists'.1 h
    exact ⟨_, congrArg Prod.fst (Vault.create_of_some hheld key)⟩
  delete_held h := by
    obtain ⟨held, hheld⟩ := Option.ne_none_iff_exists'.1 h
    exact congrArg Prod.fst (Vault.delete_of_some hheld)
  delete_absent h := ⟨_, congrArg Prod.fst (Vault.delete_of_none h)⟩
  lookup_held h := ⟨_, congrArg Prod.fst (Vault.find_of_some h), rfl⟩
  lookup_absent h := ⟨_, congrArg Prod.fst (Vault.find_of_none h)⟩

end PasswordStore

namespace ApiKey
open PasswordStore

variable {σ : Type} {store : PasswordStore (StateM σ)} {contents : σ → Vault}
  {realm name key text : String} {s s₁ s₂ s' : σ} {fault : Rest.Fault} {e : KeyError}

/-! ## The calls of a save -/

theorem save_run_of_created (h : (store.create realm name key).run s = (.ok (), s')) :
    (save store realm name key).run s = (.ok .saved, s') := by
  unfold save
  rw [StateT.run_bind, h]
  rfl

theorem save_run_of_refused (h : (store.create realm name key).run s = (.error fault, s'))
    (hfault : isConflict fault = false) :
    (save store realm name key).run s = (.error (.saveFailed fault), s') := by
  unfold save
  rw [StateT.run_bind, h]
  show (if isConflict fault = true then replace store realm name key
    else (return .error (.saveFailed fault))).run s' = _
  rw [hfault]
  rfl

theorem save_run_of_conflict
    (h : (store.create realm name key).run s = (.error (.conflict text), s₁)) :
    (save store realm name key).run s = (replace store realm name key).run s₁ := by
  unfold save
  rw [StateT.run_bind, h]
  rfl

/-- The deletion counts only for what it leaves behind. -/
theorem replace_run {deleted : Except Rest.Fault Unit}
    (hdelete : (store.delete realm name).run s = (deleted, s₁)) {created : Except Rest.Fault Unit}
    (hcreate : (store.create realm name key).run s₁ = (created, s₂)) :
    (replace store realm name key).run s =
      ((created.map fun _ => .updated).mapError .updateFailed, s₂) := by
  unfold replace
  rw [StateT.run_bind, hdelete]
  show (store.create realm name key >>= _).run s₁ = _
  rw [StateT.run_bind, hcreate]
  cases created <;> rfl

theorem eq_conflict_of_isConflict (h : isConflict fault = true) : ∃ text, fault = .conflict text := by
  cases fault with
  | conflict text => exact ⟨text, rfl⟩
  | _ => cases h

/-! ## Saves that fail -/

/-- The one course in which a save that fails takes the key away: the key exists already, is
deleted, and then the new one is refused. -/
def Loses (store : PasswordStore (StateM σ)) (realm name key : String) (s : σ) (e : KeyError)
    (s' : σ) : Prop :=
  ∃ text s₁ s₂ fault, (store.create realm name key).run s = (.error (.conflict text), s₁) ∧
    (store.delete realm name).run s₁ = (.ok (), s₂) ∧
    (store.create realm name key).run s₂ = (.error fault, s') ∧ e = .updateFailed fault

/-- A save that fails was refused at once, could neither delete nor create, or loses the key. -/
theorem save_eq_error (h : (save store realm name key).run s = (.error e, s')) :
    (∃ fault, (store.create realm name key).run s = (.error fault, s') ∧
      e = .saveFailed fault ∧ isConflict fault = false) ∨
    (∃ text s₁ s₂ kept fault, (store.create realm name key).run s = (.error (.conflict text), s₁) ∧
      (store.delete realm name).run s₁ = (.error kept, s₂) ∧
      (store.create realm name key).run s₂ = (.error fault, s') ∧ e = .updateFailed fault) ∨
    Loses store realm name key s e s' := by
  rcases hcreate : (store.create realm name key).run s with ⟨created, s₁⟩
  cases created with
  | ok _ =>
    rw [save_run_of_created hcreate] at h
    cases h
  | error fault =>
    cases hconflict : isConflict fault with
    | false =>
      rw [save_run_of_refused hcreate hconflict] at h
      cases h
      exact .inl ⟨fault, rfl, rfl, hconflict⟩
    | true =>
      obtain ⟨text, rfl⟩ := eq_conflict_of_isConflict hconflict
      rcases hdelete : (store.delete realm name).run s₁ with ⟨deleted, s₂⟩
      rcases hagain : (store.create realm name key).run s₂ with ⟨again, s₃⟩
      rw [save_run_of_conflict hcreate, replace_run hdelete hagain] at h
      cases again with
      | ok _ => cases h
      | error refused =>
        cases h
        cases deleted with
        | ok _ => exact .inr (.inr ⟨text, s₁, s₂, refused, hcreate, hdelete, hagain, rfl⟩)
        | error kept =>
          exact .inr (.inl ⟨text, s₁, s₂, kept, refused, rfl, hdelete, hagain, rfl⟩)

theorem contents_of_loses (h : store.Guards contents) (hloses : Loses store realm name key s e s') :
    contents s realm name ≠ none ∧ contents s' = (contents s).set realm name none := by
  obtain ⟨text, s₁, s₂, fault, hcreate, hdelete, hagain, _⟩ := hloses
  obtain ⟨hheld, hdeleted⟩ := h.delete_ok hdelete
  rw [h.create_error hcreate] at hheld hdeleted
  exact ⟨hheld, (h.create_error hagain).trans hdeleted⟩

/-- A save that fails leaves everything that is stored as it was, unless the key exists already, is
deleted and the new one is then refused. In that course, and in no other, the entry is gone; it is
never another key, and no other entry is touched. -/
theorem contents_of_failed_save (h : store.Guards contents)
    (hsave : (save store realm name key).run s = (.error e, s')) :
    (contents s' realm name = contents s realm name ↔ ¬ Loses store realm name key s e s') ∧
    (Loses store realm name key s e s' →
      contents s realm name ≠ none ∧ contents s' realm name = none) ∧
    ∀ r n, ¬ (r = realm ∧ n = name) → contents s' r n = contents s r n := by
  by_cases hloses : Loses store realm name key s e s'
  · obtain ⟨hheld, hcontents⟩ := contents_of_loses h hloses
    rw [hcontents, Vault.set_self]
    exact ⟨iff_of_false (Ne.symm hheld) (not_not_intro hloses), fun _ => ⟨hheld, rfl⟩,
      fun r n hne => Vault.set_of_ne hne⟩
  · have hcontents : contents s' = contents s := by
      rcases save_eq_error hsave with ⟨_, hcreate, _⟩ | ⟨_, _, _, _, _, hcreate, hdelete, hagain, _⟩ |
        hcontra
      · exact h.create_error hcreate
      · rw [h.create_error hagain, h.delete_error hdelete, h.create_error hcreate]
      · exact absurd hcontra hloses
    rw [hcontents]
    exact ⟨iff_of_true rfl hloses, fun hcontra => absurd hcontra hloses, fun _ _ _ => rfl⟩

def relayVault : Vault := Vault.empty.set "cam_queue" "relay" (some "old")

/-- A store of which one call runs out of time. -/
def stalling (call : Nat) : PasswordStore (StateM (Nat × Vault)) :=
  counting fun n => if n = call then some (.timeout (.ofSeconds 1)) else none

/-- If only the deletion runs out of time, the save fails and the old key is still there. -/
theorem stalled_delete_keeps_key :
    ∃ e s', (save (stalling 1) "cam_queue" "relay" "new").run (0, relayVault) = (.error e, s') ∧
      ¬ Loses (stalling 1) "cam_queue" "relay" "new" (0, relayVault) e s' ∧
      s'.2 "cam_queue" "relay" = some "old" := by
  have hsave : (save (stalling 1) "cam_queue" "relay" "new").run (0, relayVault) =
      (.error (.updateFailed (.conflict "cam_queue:relay:")), (3, relayVault)) := rfl
  have hkept : ¬ Loses (stalling 1) "cam_queue" "relay" "new" (0, relayVault)
      (.updateFailed (.conflict "cam_queue:relay:")) (3, relayVault) := by
    rintro ⟨text, s₁, s₂, fault, hcreate, hdelete, -, -⟩
    cases hcreate
    cases hdelete
  exact ⟨_, _, hsave, hkept,
    ((contents_of_failed_save (guards_counting _) hsave).1.2 hkept).trans rfl⟩

/-- If only the second creation runs out of time, the save fails and no key is left. -/
theorem stalled_create_loses_key :
    (stalling 2).Guards Prod.snd ∧ relayVault "cam_queue" "relay" = some "old" ∧
    ∃ s', (save (stalling 2) "cam_queue" "relay" "new").run (0, relayVault) =
        (.error (.updateFailed (.timeout (.ofSeconds 1))), s') ∧
      s'.2 "cam_queue" "relay" = none :=
  ⟨guards_counting _, rfl, (3, (relayVault.set "cam_queue" "relay" none)), rfl, rfl⟩

end ApiKey

end AccelForm
