import AccelForm.Command.Arguments
import AccelForm.Proofs.ApiKey.Vault
import AccelForm.Proofs.Command.Apply
import Mathlib.Data.List.Induction
/-
  Histories of keys

  A store that keeps its contents is used through any number of commands, in
  any order and for any names. It then answers every command as a plain map of
  names to keys would (`run_commands`): the three calls that put one key in
  place of another cannot be told from a single change of the map.

  One command is followed first (`run_perform`), and a list of them by
  induction. What the map holds after a list of commands is said without the
  map, too: a key is there if it was saved and nothing has been written under
  its name since (`Vault.after_eq_some_iff`).

  A run of the program does one command, and shows its answer (`Run.key_run`).
-/

namespace AccelForm

namespace KeyCommand

def name : KeyCommand → String
  | .save name _ | .retrieve name | .delete name => name

/-- The word for a command where its outcome is shown. -/
def operation : KeyCommand → String
  | .save _ _ => "save"
  | .retrieve _ => "show"
  | .delete _ => "delete"

/-- What a command leaves where there was an entry or none. -/
def leaves (held : Option String) : KeyCommand → Option String
  | .save _ key => some key
  | .retrieve _ => held
  | .delete _ => none

/-- A command saves or deletes the entry of a name. -/
def Writes (name : String) : KeyCommand → Prop
  | .save n _ | .delete n => n = name
  | .retrieve _ => False

theorem name_eq_of_writes {c : KeyCommand} {n : String} (h : c.Writes n) : c.name = n := by
  cases c with
  | save | delete => exact h
  | retrieve => exact h.elim

theorem leaves_of_not_writes {c : KeyCommand} (h : ¬ c.Writes c.name) (held : Option String) :
    c.leaves held = held := by
  cases c with
  | save | delete => exact absurd rfl h
  | retrieve => rfl

/-- What is answered to a command by one who holds a key under its name, or none. -/
inductive Answers (held : Option String) :
    KeyCommand → Except KeyError (KeyOutcome × Option String) → Prop where
  | saved {name key : String} : held = none → Answers held (.save name key) (.ok (.saved, none))
  | updated {name key : String} : held ≠ none → Answers held (.save name key) (.ok (.updated, none))
  | retrieved {name key : String} : held = some key →
      Answers held (.retrieve name) (.ok (.retrieved, some key))
  | missing {name text : String} : held = none →
      Answers held (.retrieve name) (.error (.retrieveFailed (some (.notFound text)) 0))
  | deleted {name : String} : held ≠ none → Answers held (.delete name) (.ok (.deleted, none))
  | notDeleted {name text : String} : held = none →
      Answers held (.delete name) (.error (.deleteFailed (.notFound text)))

end KeyCommand

/-! ## A plain map -/

namespace Vault

def step (realm : String) (v : Vault) (c : KeyCommand) : Vault :=
  v.set realm c.name (c.leaves (v realm c.name))

def after (realm : String) (v : Vault) (calls : List KeyCommand) : Vault :=
  calls.foldl (step realm) v

variable {realm name key r n : String} {v : Vault} {c : KeyCommand} {calls : List KeyCommand}

theorem step_of_ne (h : ¬ (r = realm ∧ n = c.name)) : v.step realm c r n = v r n := set_of_ne h

/-- A command changes nothing but the entry that it writes. -/
theorem step_of_not_writes (h : r = realm → ¬ c.Writes n) : v.step realm c r n = v r n := by
  by_cases hrn : r = realm ∧ n = c.name
  · obtain ⟨rfl, rfl⟩ := hrn
    exact (set_self _ _ _ _).trans (KeyCommand.leaves_of_not_writes (h rfl) _)
  · exact step_of_ne hrn

theorem after_of_not_writes (h : r = realm → ∀ c ∈ calls, ¬ c.Writes n) :
    v.after realm calls r n = v r n := by
  induction calls generalizing v with
  | nil => rfl
  | cons c calls ih =>
    refine (ih fun hr c' hc' => h hr c' (List.mem_cons_of_mem c hc')).trans ?_
    exact step_of_not_writes fun hr => h hr c (List.mem_cons_self ..)

/-- What a command that writes an entry leaves in it. -/
theorem step_of_writes (h : c.Writes name) :
    v.step realm c realm name = some key ↔ c = .save name key := by
  cases c with
  | save n k =>
    cases h
    change v.set realm name (some k) realm name = _ ↔ _
    rw [set_self, Option.some_inj, KeyCommand.save.injEq, and_iff_right rfl]
  | delete n =>
    cases h
    change v.set realm name none realm name = _ ↔ _
    simp
  | retrieve n => exact h.elim

/-- The key was saved by a command and the entry was not written since, or it was there at first and
the entry was never written. -/
def LastKept (v : Vault) (realm : String) (calls : List KeyCommand) (name key : String) : Prop :=
  (∃ earlier later, calls = earlier ++ .save name key :: later ∧ ∀ c ∈ later, ¬ c.Writes name) ∨
  (v realm name = some key ∧ ∀ c ∈ calls, ¬ c.Writes name)

/-- A list that ends in a command is split at that command or before it. -/
theorem split_concat {earlier later : List KeyCommand} {saved : KeyCommand}
    (h : calls ++ [c] = earlier ++ saved :: later) :
    saved = c ∨ ∃ rest, later = rest ++ [c] ∧ calls = earlier ++ saved :: rest := by
  rcases List.eq_nil_or_concat later with rfl | ⟨rest, last, rfl⟩
  · exact .inl (List.singleton_inj.1 (List.append_inj' h rfl).2).symm
  · rw [List.concat_eq_append, ← List.cons_append, ← List.append_assoc] at h
    obtain ⟨hcalls, hlast⟩ := List.append_inj' h rfl
    obtain rfl := List.singleton_inj.1 hlast
    exact .inr ⟨rest, List.concat_eq_append .., hcalls⟩

/-- The last command decides if it writes the entry: no split of the list can pass it over. -/
theorem lastKept_concat_of_writes (h : c.Writes name) :
    v.LastKept realm (calls ++ [c]) name key ↔ c = .save name key := by
  constructor
  · rintro (⟨earlier, later, hsplit, hlater⟩ | ⟨_, hall⟩)
    · rcases split_concat hsplit with hc | ⟨rest, rfl, _⟩
      · exact hc.symm
      · exact absurd h (hlater c (by simp))
    · exact absurd h (hall c (by simp))
  · rintro rfl
    exact .inl ⟨calls, [], rfl, fun _ hmem => nomatch hmem⟩

theorem lastKept_concat_of_not_writes (h : ¬ c.Writes name) :
    v.LastKept realm (calls ++ [c]) name key ↔ v.LastKept realm calls name key := by
  have hall (l : List KeyCommand) :
      (∀ c' ∈ l ++ [c], ¬ c'.Writes name) ↔ ∀ c' ∈ l, ¬ c'.Writes name := by
    rw [List.forall_mem_append]
    exact and_iff_left (by simpa using h)
  constructor
  · rintro (⟨earlier, later, hsplit, hlater⟩ | ⟨hfirst, hcalls⟩)
    · rcases split_concat hsplit with rfl | ⟨rest, rfl, hcalls⟩
      · exact absurd rfl h
      · exact .inl ⟨earlier, rest, hcalls, (hall rest).1 hlater⟩
    · exact .inr ⟨hfirst, (hall calls).1 hcalls⟩
  · rintro (⟨earlier, later, rfl, hlater⟩ | ⟨hfirst, hcalls⟩)
    · exact .inl ⟨earlier, later ++ [c], by simp, (hall later).2 hlater⟩
    · exact .inr ⟨hfirst, (hall calls).2 hcalls⟩

/-- The key that is found is the last that was kept. -/
theorem after_eq_some_iff :
    v.after realm calls realm name = some key ↔ v.LastKept realm calls name key := by
  induction calls using List.reverseRecOn with
  | nil => simp [after, LastKept]
  | append_singleton calls c ih =>
    have hlast : v.after realm (calls ++ [c]) = (v.after realm calls).step realm c :=
      List.foldl_append
    rw [hlast]
    by_cases hwrites : c.Writes name
    · rw [step_of_writes hwrites, lastKept_concat_of_writes hwrites]
    · rw [step_of_not_writes fun _ => hwrites, lastKept_concat_of_not_writes hwrites, ih]

end Vault

/-! ## A store that keeps its contents -/

namespace PasswordStore.Keeps
variable {σ : Type} {store : PasswordStore (StateM σ)} {contents : σ → Vault}
  {realm name key : String} {s : σ}

theorem run_eq_of_fst {α : Type} {call : StateM σ α} {a : α} (h : (call.run s).1 = a) :
    call.run s = (a, (call.run s).2) := Prod.ext h rfl

theorem run_create_of_absent (h : store.Keeps contents) (key : String)
    (hnone : contents s realm name = none) :
    ∃ s', (store.create realm name key).run s = (.ok (), s') ∧
      contents s' = (contents s).set realm name (some key) := by
  have hrun := run_eq_of_fst (h.create_absent key hnone)
  exact ⟨_, hrun, (h.create_ok hrun).2⟩

theorem run_create_of_held (h : store.Keeps contents) (key : String)
    (hsome : contents s realm name ≠ none) :
    ∃ text s', (store.create realm name key).run s = (.error (.conflict text), s') ∧
      contents s' = contents s := by
  obtain ⟨text, hresult⟩ := h.create_held key hsome
  have hrun := run_eq_of_fst hresult
  exact ⟨text, _, hrun, h.create_error hrun⟩

theorem run_delete_of_held (h : store.Keeps contents) (hsome : contents s realm name ≠ none) :
    ∃ s', (store.delete realm name).run s = (.ok (), s') ∧
      contents s' = (contents s).set realm name none := by
  have hrun := run_eq_of_fst (h.delete_held hsome)
  exact ⟨_, hrun, (h.delete_ok hrun).2⟩

theorem run_delete_of_absent (h : store.Keeps contents) (hnone : contents s realm name = none) :
    ∃ text s', (store.delete realm name).run s = (.error (.notFound text), s') ∧
      contents s' = contents s := by
  obtain ⟨text, hresult⟩ := h.delete_absent hnone
  have hrun := run_eq_of_fst hresult
  exact ⟨text, _, hrun, h.delete_error hrun⟩

theorem run_lookup_of_held (h : store.Keeps contents) (hsome : contents s realm name = some key) :
    ∃ entry s', (store.lookup realm name).run s = (.ok [entry], s') ∧ entry.clearPassword = key ∧
      contents s' = contents s := by
  obtain ⟨entry, hresult, hkey⟩ := h.lookup_held hsome
  have hrun := run_eq_of_fst hresult
  exact ⟨entry, _, hrun, hkey, h.lookup hrun⟩

theorem run_lookup_of_absent (h : store.Keeps contents) (hnone : contents s realm name = none) :
    ∃ text s', (store.lookup realm name).run s = (.error (.notFound text), s') ∧
      contents s' = contents s := by
  obtain ⟨text, hresult⟩ := h.lookup_absent hnone
  have hrun := run_eq_of_fst hresult
  exact ⟨text, _, hrun, h.lookup hrun⟩

end PasswordStore.Keeps

namespace ApiKey
open PasswordStore

variable {σ : Type} {store : PasswordStore (StateM σ)} {contents : σ → Vault}
  {realm name key : String} {s s' : σ}

/-- Does what a command asks for: what was done, and the key that is shown. -/
def perform {m : Type → Type} [Monad m] (store : PasswordStore m) (realm : String) :
    KeyCommand → m (Except KeyError (KeyOutcome × Option String))
  | .save name key => do return (← save store realm name key).map (·, none)
  | .retrieve name => do return (← retrieve store realm name).map (.retrieved, some ·)
  | .delete name => do return (← delete store realm name).map (·, none)

theorem run_save_of_absent (h : store.Keeps contents) (key : String)
    (hnone : contents s realm name = none) :
    ∃ s', (save store realm name key).run s = (.ok .saved, s') ∧
      contents s' = (contents s).set realm name (some key) := by
  obtain ⟨s', hcreate, hcontents⟩ := h.run_create_of_absent key hnone
  exact ⟨s', save_run_of_created hcreate, hcontents⟩

/-- The three calls that replace a key make one change of the contents. -/
theorem run_save_of_held (h : store.Keeps contents) (key : String)
    (hsome : contents s realm name ≠ none) :
    ∃ s', (save store realm name key).run s = (.ok .updated, s') ∧
      contents s' = (contents s).set realm name (some key) := by
  -- between the deletion and the second creation there is no entry, but nothing looks then
  obtain ⟨text, s₁, hcreate, h₁⟩ := h.run_create_of_held key hsome
  obtain ⟨s₂, hdelete, h₂⟩ := h.run_delete_of_held (by rwa [h₁])
  obtain ⟨s₃, hagain, h₃⟩ := h.run_create_of_absent key (by rw [h₂, Vault.set_self])
  refine ⟨s₃, ?_, by rw [h₃, h₂, h₁, Vault.set_set]⟩
  rw [save_run_of_conflict hcreate, replace_run hdelete hagain]
  rfl

theorem retrieve_run {found : Except Rest.Fault (List Rest.StoredPassword)}
    (hlookup : (store.lookup realm name).run s = (found, s')) :
    (retrieve store realm name).run s =
      ((found.mapError fun fault => .retrieveFailed (some fault) 0).bind ofEntries, s') := by
  unfold retrieve
  rw [StateT.run_bind, hlookup]
  cases found <;> rfl

theorem delete_run {deleted : Except Rest.Fault Unit}
    (hdelete : (store.delete realm name).run s = (deleted, s')) :
    (delete store realm name).run s =
      ((deleted.map fun _ => .deleted).mapError .deleteFailed, s') := by
  unfold delete
  rw [StateT.run_bind, hdelete]
  cases deleted <;> rfl

/-! ## One command, and many -/

/-- The run of a call whose result is put into other words. -/
theorem run_bind_map {α β : Type} {call : StateM σ (Except KeyError α)}
    {result : Except KeyError α} (h : call.run s = (result, s')) (f : α → β) :
    (call >>= fun r => pure (r.map f)).run s = (result.map f, s') := by
  rw [StateT.run_bind, h]
  rfl

/-- A command is answered as a plain map answers it, and changes the contents as it changes one. -/
theorem run_perform (h : store.Keeps contents) (realm : String) (c : KeyCommand) (s : σ) :
    ∃ result s', (perform store realm c).run s = (result, s') ∧
      c.Answers (contents s realm c.name) result ∧ contents s' = (contents s).step realm c := by
  cases c with
  | save name key =>
    by_cases hheld : contents s realm name = none
    · obtain ⟨s', hsave, hcontents⟩ := run_save_of_absent h key hheld
      exact ⟨_, s', run_bind_map hsave _, .saved hheld, hcontents⟩
    · obtain ⟨s', hsave, hcontents⟩ := run_save_of_held h key hheld
      exact ⟨_, s', run_bind_map hsave _, .updated hheld, hcontents⟩
  | retrieve name =>
    have hstep : (contents s).step realm (.retrieve name) = contents s := Vault.set_eq_self _ _ _
    rw [hstep]
    cases hheld : contents s realm name with
    | none =>
      obtain ⟨text, s', hlookup, hcontents⟩ := h.run_lookup_of_absent hheld
      exact ⟨_, s', run_bind_map (retrieve_run hlookup) _, .missing hheld, hcontents⟩
    | some key =>
      obtain ⟨entry, s', hlookup, rfl, hcontents⟩ := h.run_lookup_of_held hheld
      exact ⟨_, s', run_bind_map (retrieve_run hlookup) _, .retrieved hheld, hcontents⟩
  | delete name =>
    by_cases hheld : contents s realm name = none
    · -- taking out what is not there changes nothing
      have hstep : (contents s).step realm (.delete name) = contents s := by
        refine Eq.trans ?_ (Vault.set_eq_self (contents s) realm name)
        exact congrArg _ hheld.symm
      obtain ⟨text, s', hdelete, hcontents⟩ := h.run_delete_of_absent hheld
      exact ⟨_, s', run_bind_map (delete_run hdelete) _, .notDeleted hheld,
        hcontents.trans hstep.symm⟩
    · obtain ⟨s', hdelete, hcontents⟩ := h.run_delete_of_held hheld
      exact ⟨_, s', run_bind_map (delete_run hdelete) _, .deleted hheld, hcontents⟩

theorem run_mapM_cons {c : KeyCommand} {calls : List KeyCommand}
    {result : Except KeyError (KeyOutcome × Option String)}
    {results : List (Except KeyError (KeyOutcome × Option String))} {s₁ : σ}
    (hfirst : (perform store realm c).run s = (result, s₁))
    (hrest : (calls.mapM (perform store realm)).run s₁ = (results, s')) :
    ((c :: calls).mapM (perform store realm)).run s = (result :: results, s') := by
  rw [List.mapM_cons, StateT.run_bind, hfirst]
  show (calls.mapM (perform store realm) >>= fun results => pure (result :: results)).run s₁ = _
  rw [StateT.run_bind, hrest]
  rfl

/-- Every one of the commands is answered from what those before it have left. -/
theorem run_mapM_perform (h : store.Keeps contents) (realm : String) (calls : List KeyCommand)
    (s : σ) :
    ∃ results s', (calls.mapM (perform store realm)).run s = (results, s') ∧
      results.length = calls.length ∧
      (∀ i (c : KeyCommand), calls[i]? = some c → ∃ result, results[i]? = some result ∧
        c.Answers ((contents s).after realm (calls.take i) realm c.name) result) ∧
      contents s' = (contents s).after realm calls := by
  induction calls generalizing s with
  | nil => exact ⟨[], s, rfl, rfl, fun i c hc => by simp at hc, rfl⟩
  | cons c calls ih =>
    obtain ⟨result, s₁, hfirst, hanswers, h₁⟩ := run_perform h realm c s
    obtain ⟨results, s', hrest, hlength, hall, hcontents⟩ := ih s₁
    rw [h₁] at hall hcontents
    refine ⟨result :: results, s', run_mapM_cons hfirst hrest, congrArg (· + 1) hlength,
      fun i c' hc' => ?_, hcontents⟩
    cases i with
    | zero =>
      cases hc'
      exact ⟨result, rfl, hanswers⟩
    | succ i => exact hall i c' hc'

/-- The key that is shown is the one that is held, if there is one. -/
theorem shown_iff {held : Option String} {result : Except KeyError (KeyOutcome × Option String)}
    (h : (KeyCommand.retrieve name).Answers held result) :
    result = .ok (.retrieved, some key) ↔ held = some key := by
  cases h with
  | retrieved hheld => simp [hheld]
  | missing hheld => simp [hheld]

/-- A store that keeps its contents answers any number of commands in a realm as a plain map of
names to keys does. A key that is saved is reported as new or as updated after what the map held; a
key is shown if it is the last that was kept, and nothing is shown otherwise; a deletion succeeds
where there is an entry. In the end the store holds what the map holds, and under a name that no
command was about it holds what it held. -/
theorem run_commands (h : store.Keeps contents) (realm : String) (calls : List KeyCommand)
    (s : σ) :
    ∃ results s', (calls.mapM (perform store realm)).run s = (results, s') ∧
      results.length = calls.length ∧
      (∀ i (c : KeyCommand), calls[i]? = some c → ∃ result, results[i]? = some result ∧
        c.Answers ((contents s).after realm (calls.take i) realm c.name) result) ∧
      (∀ i name key, calls[i]? = some (.retrieve name) →
        (results[i]? = some (.ok (.retrieved, some key)) ↔
          (contents s).LastKept realm (calls.take i) name key)) ∧
      contents s' = (contents s).after realm calls ∧
      (∀ name key, contents s' realm name = some key ↔ (contents s).LastKept realm calls name key) ∧
      ∀ r n, (r = realm → ∀ c ∈ calls, c.name ≠ n) → contents s' r n = contents s r n := by
  obtain ⟨results, s', hrun, hlength, hall, hcontents⟩ := run_mapM_perform h realm calls s
  refine ⟨results, s', hrun, hlength, hall, fun i name key hcall => ?_, hcontents,
    fun name key => ?_, fun r n hother => ?_⟩
  · obtain ⟨result, hresult, hanswers⟩ := hall i _ hcall
    rw [hresult, Option.some_inj, shown_iff hanswers]
    exact Vault.after_eq_some_iff
  · rw [hcontents, Vault.after_eq_some_iff]
  · rw [hcontents]
    exact Vault.after_of_not_writes fun hr c hc hwrites =>
      hother hr c hc (KeyCommand.name_eq_of_writes hwrites)

/-- In a realm with one key in it, a second name is saved, the first is replaced, and the second is
deleted before both are shown: the first is found with its new key. -/
theorem counting_run_commands :
    (counting fun _ => none).Keeps Prod.snd ∧
    ∃ results s', (List.mapM (perform (counting fun _ => none) "cam_queue")
        [.save "mirror" "k1", .save "relay" "k2", .delete "mirror", .retrieve "mirror",
          .retrieve "relay"]).run (0, relayVault) = (results, s') ∧
      results[4]? = some (.ok (.retrieved, some "k2")) ∧
      s'.2 "cam_queue" "relay" = some "k2" ∧ s'.2 "cam_queue" "other" = none := by
  obtain ⟨results, s', hrun, _, _, hshown, _, hkept, hother⟩ :=
    run_commands keeps_counting "cam_queue"
      [.save "mirror" "k1", .save "relay" "k2", .delete "mirror", .retrieve "mirror",
        .retrieve "relay"] (0, relayVault)
  have hlast (later : List KeyCommand) (hlater : ∀ c ∈ later, ¬ c.Writes "relay") :
      relayVault.LastKept "cam_queue"
        (.save "mirror" "k1" :: .save "relay" "k2" :: later) "relay" "k2" :=
    .inl ⟨[.save "mirror" "k1"], later, rfl, hlater⟩
  refine ⟨keeps_counting, results, s', hrun, (hshown 4 "relay" "k2" rfl).2 (hlast _ ?_),
    (hkept "relay" "k2").2 (hlast _ ?_), (hother "cam_queue" "other" ?_).trans rfl⟩
  · simp [KeyCommand.Writes]
  · simp [KeyCommand.Writes]
  · simp [KeyCommand.name]

end ApiKey

/-! ## The command line -/

namespace Run
open Rest (Wire)

variable {s : Site} {w w' : Wire}

theorem lift_key_run {α : Type} {call : StateM Wire (Except KeyError α)}
    {result : Except KeyError α} (h : call.run w = (result, w')) (tell : α → Finding) :
    (lift Failure.key call >>= fun a => pure (tell a) : Run Finding).run.run w =
      ((result.map tell).mapError .key, w') := by
  rw [ExceptT.run_bind, StateT.run_bind, lift_run .key h]
  cases result <;> rfl

/-- A run of the program for a key sends what is sent to do its command, and shows what was done or
ends in the error. -/
theorem key_run {c : KeyCommand} {result : Except KeyError (KeyOutcome × Option String)}
    (h : (ApiKey.perform s.store s.target.realm c).run w = (result, w')) :
    (key s c).run.run w =
      ((result.map fun r => keyFinding s c.operation c.name r.1 r.2).mapError .key, w') := by
  -- both sides run the same call on the keys and differ only in what they make of its result
  cases c with
  | save name key =>
    rcases hsave : (ApiKey.save s.store s.target.realm name key).run w with ⟨outcome, w₁⟩
    cases (ApiKey.run_bind_map hsave (·, none)).symm.trans h
    refine (lift_key_run hsave _).trans ?_
    cases outcome <;> rfl
  | retrieve name =>
    rcases hfound : (ApiKey.retrieve s.store s.target.realm name).run w with ⟨found, w₁⟩
    cases (ApiKey.run_bind_map hfound (fun k => (KeyOutcome.retrieved, some k))).symm.trans h
    refine (lift_key_run hfound _).trans ?_
    cases found <;> rfl
  | delete name =>
    rcases hdelete : (ApiKey.delete s.store s.target.realm name).run w with ⟨outcome, w₁⟩
    cases (ApiKey.run_bind_map hdelete (·, none)).symm.trans h
    refine (lift_key_run hdelete _).trans ?_
    cases outcome <;> rfl

end Run

end AccelForm
