import AccelForm.Proofs.Form.Edit
/-
  Rows with the replies to their updates

  A plan is made from the rows in order and the replies come in the order of
  the plan. `answers` deals the replies back to the rows that the plan was made
  from, without looking at names. `Answer.settled` is what a row with its
  replies comes to: settings with problems are put back, and what the server
  has taken over becomes the baseline.
-/

namespace AccelForm

/-- A row at a save, with the replies to its updates. -/
structure Answer where
  row : Row
  toWhitelist : Option UpdateResult
  toSettings : Option UpdateResult

namespace Row

/-- The row with the settings put back that keep it from being sent. -/
def reverted (r : Row) : Row :=
  match r.invalidChange? with
  | some c => r.revert c.problems
  | none => r

theorem whitelistChange?_eq_some {r : Row} {c : WhitelistChange} (h : r.whitelistChange? = some c) :
    r.whitelistChanged = true ∧ c.model = r.model ∧ r.macroName = some c.macroName ∧
      c.definition = Whitelist.encode (Whitelist.split r.whitelist) := by
  unfold whitelistChange? at h
  split at h
  · next name hname =>
    split at h
    · next hc =>
      cases h
      exact ⟨hc, rfl, hname, rfl⟩
    · cases h
  · cases h

theorem settingsChange?_eq_some {features : Features} {r : Row} {c : SettingsChange}
    (h : r.settingsChange? features = some c) :
    r.settingsChanged = true ∧ r.problems = [] ∧
      c = ⟨r.model, r.baseline.changedKeys r.attributes, r.attributes.params features⟩ := by
  unfold settingsChange? at h
  split at h
  · next hc =>
    rw [Bool.and_eq_true, List.isEmpty_iff] at hc
    exact ⟨hc.1, hc.2, (Option.some.inj h).symm⟩
  · cases h

theorem invalidChange?_eq_some {r : Row} {c : InvalidChange} (h : r.invalidChange? = some c) :
    r.settingsChanged = true ∧ r.problems ≠ [] ∧ c = ⟨r.model, r.problems⟩ := by
  unfold invalidChange? at h
  split at h
  · next hc =>
    rw [Bool.and_eq_true, Bool.not_eq_true', List.isEmpty_eq_false_iff] at hc
    exact ⟨hc.1, hc.2, (Option.some.inj h).symm⟩
  · cases h

theorem reverted_of_valid {r : Row} (h : r.problems = []) : r.reverted = r := by
  have hno : r.invalidChange? = none := by simp [invalidChange?, h]
  rw [reverted, hno]

@[simp] theorem reverted_model (r : Row) : r.reverted.model = r.model := by
  unfold reverted
  split <;> rfl

@[simp] theorem reverted_macroName (r : Row) : r.reverted.macroName = r.macroName := by
  unfold reverted
  split <;> rfl

@[simp] theorem reverted_whitelist (r : Row) : r.reverted.whitelist = r.whitelist := by
  unfold reverted
  split <;> rfl

@[simp] theorem reverted_savedWhitelist (r : Row) :
    r.reverted.savedWhitelist = r.savedWhitelist := by
  unfold reverted
  split <;> rfl

@[simp] theorem reverted_baseline (r : Row) : r.reverted.baseline = r.baseline := by
  unfold reverted
  split <;> rfl

/-- A row without edits has no part in a plan. -/
theorem no_change_of_clean {r : Row} (h : r.isDirty = false) (features : Features) :
    r.whitelistChange? = none ∧ r.settingsChange? features = none ∧ r.invalidChange? = none := by
  rw [isDirty, Bool.or_eq_false_iff] at h
  obtain ⟨hw, hs⟩ := h
  refine ⟨?_, by simp [settingsChange?, hs], by simp [invalidChange?, hs]⟩
  unfold whitelistChange?
  split <;> simp [hw]

end Row

namespace Answer

/-- The whitelist of the row, if a reply of the given kind came to its update. -/
def whitelistIf (kind : UpdateResult → Bool) (a : Answer) : Option WhitelistChange :=
  if a.toWhitelist.any kind then a.row.whitelistChange? else none

/-- The settings of the row, if a reply of the given kind came to their update. -/
def settingsIf (features : Features) (kind : UpdateResult → Bool) (a : Answer) :
    Option SettingsChange :=
  if a.toSettings.any kind then a.row.settingsChange? features else none

theorem whitelistIf_eq_some {kind : UpdateResult → Bool} {a : Answer} {c : WhitelistChange}
    (h : a.whitelistIf kind = some c) : a.row.whitelistChange? = some c := by
  unfold whitelistIf at h
  split at h
  · exact h
  · cases h

theorem settingsIf_eq_some {features : Features} {kind : UpdateResult → Bool} {a : Answer}
    {c : SettingsChange} (h : a.settingsIf features kind = some c) :
    a.row.settingsChange? features = some c := by
  unfold settingsIf at h
  split at h
  · exact h
  · cases h

/-- The whitelist of the row that the server has taken over. -/
def acceptedWhitelist? (a : Answer) : Option WhitelistChange := a.whitelistIf (·.isOk)

/-- The settings of the row that the server has taken over. -/
def acceptedSettings? (features : Features) (a : Answer) : Option SettingsChange :=
  a.settingsIf features (·.isOk)

def whitelistSettled (a : Answer) : Row :=
  match a.acceptedWhitelist? with
  | some _ => a.row.reverted.keepWhitelist
  | none => a.row.reverted

def settled (features : Features) (a : Answer) : Row :=
  match a.acceptedSettings? features with
  | some _ => a.whitelistSettled.keepSettings
  | none => a.whitelistSettled

/-! ### The parts of a settled row -/

theorem whitelistSettled_model (a : Answer) : a.whitelistSettled.model = a.row.model := by
  unfold whitelistSettled
  split <;> exact a.row.reverted_model

@[simp] theorem settled_model (features : Features) (a : Answer) :
    (a.settled features).model = a.row.model := by
  unfold settled
  split <;> exact a.whitelistSettled_model

@[simp] theorem settled_macroName (features : Features) (a : Answer) :
    (a.settled features).macroName = a.row.macroName := by
  unfold settled whitelistSettled
  split <;> split <;> exact a.row.reverted_macroName

@[simp] theorem settled_whitelist (features : Features) (a : Answer) :
    (a.settled features).whitelist = a.row.whitelist := by
  unfold settled whitelistSettled
  split <;> split <;> exact a.row.reverted_whitelist

theorem settled_savedWhitelist (features : Features) (a : Answer) :
    (a.settled features).savedWhitelist =
      if a.acceptedWhitelist?.isSome then a.row.whitelist else a.row.savedWhitelist := by
  have hs : (a.settled features).savedWhitelist = a.whitelistSettled.savedWhitelist := by
    unfold settled
    split <;> rfl
  rw [hs, whitelistSettled]
  cases a.acceptedWhitelist? with
  | none => exact a.row.reverted_savedWhitelist
  | some c => exact a.row.reverted_whitelist

@[simp] theorem settled_attributes (features : Features) (a : Answer) :
    (a.settled features).attributes = a.row.reverted.attributes := by
  unfold settled whitelistSettled
  split <;> split <;> rfl

theorem settled_baseline (features : Features) (a : Answer) :
    (a.settled features).baseline =
      if (a.acceptedSettings? features).isSome then a.row.attributes else a.row.baseline := by
  have hw : a.whitelistSettled.attributes = a.row.reverted.attributes ∧
      a.whitelistSettled.baseline = a.row.reverted.baseline := by
    unfold whitelistSettled
    split <;> exact ⟨rfl, rfl⟩
  unfold settled
  cases hc : a.acceptedSettings? features with
  | none => exact hw.2.trans a.row.reverted_baseline
  | some c =>
    -- settings that were sent have no problems, so none of them was put back
    obtain ⟨_, hp, _⟩ := Row.settingsChange?_eq_some (settingsIf_eq_some hc)
    rw [Row.reverted_of_valid hp] at hw
    exact hw.1

/-- A row that has problems keeps its baseline. -/
theorem settled_baseline_of_invalid {features : Features} {a : Answer} {c : InvalidChange}
    (h : a.row.invalidChange? = some c) : (a.settled features).baseline = a.row.baseline := by
  have hno : a.row.settingsChange? features = none := by
    obtain ⟨_, hp, _⟩ := Row.invalidChange?_eq_some h
    simp [Row.settingsChange?, hp]
  rw [settled_baseline, acceptedSettings?, settingsIf, hno, ite_self]
  rfl

/-- A row without edits is taken over in no part. -/
theorem none_of_clean {a : Answer} (h : a.row.isDirty = false) (features : Features)
    (kind : UpdateResult → Bool) :
    a.whitelistIf kind = none ∧ a.settingsIf features kind = none := by
  obtain ⟨hw, hs, _⟩ := Row.no_change_of_clean h features
  simp [whitelistIf, settingsIf, hw, hs]

theorem settled_of_clean {a : Answer} (h : a.row.isDirty = false) (features : Features) :
    a.settled features = a.row := by
  obtain ⟨hw, hs⟩ := none_of_clean h features (·.isOk)
  rw [settled, acceptedSettings?, hs, whitelistSettled, acceptedWhitelist?, hw, Row.reverted,
    (Row.no_change_of_clean h features).2.2]

end Answer

/-- Deals the next reply to an update, if there is an update: the reply and those left. -/
def deal {α : Type} (update : Option α) (replies : List UpdateResult) :
    Option UpdateResult × List UpdateResult :=
  match update with
  | some _ => (replies.head?, replies.tail)
  | none => (none, replies)

/-- Deals the replies to the whitelists and to the settings to the rows in order. -/
def answers (features : Features) :
    List Row → (toWhitelists toSettings : List UpdateResult) → List Answer
  | [], _, _ => []
  | r :: rows, ws, ss =>
    let w := deal r.whitelistChange? ws
    let s := deal (r.settingsChange? features) ss
    ⟨r, w.1, s.1⟩ :: answers features rows w.2 s.2

theorem filterMap_cons_toList {α β : Type} (g : α → Option β) (a : α) (l : List α) :
    (a :: l).filterMap g = (g a).toList ++ l.filterMap g := by
  cases h : g a <;> simp [h]

/-! ## One kind of update -/

section Updates
variable {α : Type} {pick : Row → Option α} {reply : Answer → Option UpdateResult}
  {as : List Answer} {rs : List UpdateResult}

/-- The updates to which a reply of one kind comes, one update and its reply taken off. -/
theorem filterMap_zip_deal (kind : UpdateResult → Bool) (update : Option α) (updates : List α)
    (rs : List UpdateResult) :
    ((update.toList ++ updates).zip rs).filterMap
        (fun p => if kind p.2 then some p.1 else none) =
      (if (deal update rs).1.any kind then update else none).toList ++
        (updates.zip (deal update rs).2).filterMap
          (fun p => if kind p.2 then some p.1 else none) := by
  cases update with
  | none => simp [deal]
  | some u =>
    cases rs with
    | nil => simp [deal]
    | cons x rest => cases hx : kind x <;> simp [deal, hx]

/-- With a reply to every update, one is dealt to each. -/
theorem isSome_deal {update : Option α} {updates : List α}
    (h : (update.toList ++ updates).length ≤ rs.length) :
    (update.isSome = true → (deal update rs).1.isSome = true) ∧
      updates.length ≤ (deal update rs).2.length := by
  cases update with
  | none => simpa [deal] using h
  | some u =>
    cases rs with
    | nil => simp at h
    | cons x rest => simpa [deal] using h

/-- The answers hold the replies to the updates that are picked from their rows, in order. -/
inductive Dealt (pick : Row → Option α) (reply : Answer → Option UpdateResult) :
    List Answer → List UpdateResult → Prop where
  | nil {rs : List UpdateResult} : Dealt pick reply [] rs
  | cons {a : Answer} {as : List Answer} {rs : List UpdateResult}
      (head : reply a = (deal (pick a.row) rs).1)
      (tail : Dealt pick reply as (deal (pick a.row) rs).2) : Dealt pick reply (a :: as) rs

theorem Dealt.filterMap_zip (h : Dealt pick reply as rs) (kind : UpdateResult → Bool) :
    ((as.filterMap fun a => pick a.row).zip rs).filterMap
        (fun p => if kind p.2 then some p.1 else none) =
      as.filterMap fun a => if (reply a).any kind then pick a.row else none := by
  induction h with
  | nil => rfl
  | cons head _ ih =>
    rw [filterMap_cons_toList, filterMap_zip_deal, ih, filterMap_cons_toList, head]

theorem Dealt.isSome (h : Dealt pick reply as rs)
    (hlen : (as.filterMap fun a => pick a.row).length ≤ rs.length) {a : Answer} (ha : a ∈ as)
    (hp : (pick a.row).isSome = true) : (reply a).isSome = true := by
  -- a reply for each update is the invariant; dealing one reply takes off one update
  induction h with
  | nil => cases ha
  | cons head _ ih =>
    rw [filterMap_cons_toList] at hlen
    obtain ⟨hfirst, hrest⟩ := isSome_deal hlen
    rcases List.mem_cons.1 ha with rfl | ha
    · rw [head]
      exact hfirst hp
    · exact ih hrest ha

end Updates

/-! ## Whitelists and settings -/

section Dealing
variable {features : Features} {rows : List Row} {ws ss : List UpdateResult} {a : Answer}

theorem map_row_answers : (answers features rows ws ss).map (·.row) = rows := by
  induction rows generalizing ws ss with
  | nil => rfl
  | cons r rows ih => rw [answers, List.map_cons, ih]

theorem pairwise_row_answers {R : Row → Row → Prop} (h : rows.Pairwise R) :
    (answers features rows ws ss).Pairwise fun a b => R a.row b.row := by
  have hmap : ((answers features rows ws ss).map (·.row)).Pairwise R := by
    rwa [map_row_answers]
  exact List.pairwise_map.1 hmap

theorem mem_of_mem_answers (h : a ∈ answers features rows ws ss) : a.row ∈ rows := by
  have hm : a.row ∈ (answers features rows ws ss).map (·.row) := List.mem_map_of_mem h
  rwa [map_row_answers] at hm

theorem filterMap_row_answers {α : Type} (pick : Row → Option α) :
    (answers features rows ws ss).filterMap (fun a => pick a.row) = rows.filterMap pick := by
  show (answers features rows ws ss).filterMap (pick ∘ Answer.row) = _
  rw [← List.filterMap_map, map_row_answers]

theorem dealt_toWhitelist :
    Dealt Row.whitelistChange? Answer.toWhitelist (answers features rows ws ss) ws := by
  induction rows generalizing ws ss with
  | nil => exact .nil
  | cons r rows ih => exact .cons rfl ih

theorem dealt_toSettings :
    Dealt (Row.settingsChange? features) Answer.toSettings (answers features rows ws ss) ss := by
  induction rows generalizing ws ss with
  | nil => exact .nil
  | cons r rows ih => exact .cons rfl ih

/-- The whitelists of the plan to which a reply of one kind came, row by row. -/
theorem filterMap_whitelistIf (kind : UpdateResult → Bool) :
    ((rows.filterMap Row.whitelistChange?).zip ws).filterMap
        (fun p => if kind p.2 then some p.1 else none) =
      (answers features rows ws ss).filterMap (·.whitelistIf kind) := by
  have h := (dealt_toWhitelist : Dealt _ _ (answers features rows ws ss) ws).filterMap_zip kind
  rwa [filterMap_row_answers] at h

/-- The settings of the plan to which a reply of one kind came, row by row. -/
theorem filterMap_settingsIf (kind : UpdateResult → Bool) :
    ((rows.filterMap (Row.settingsChange? features)).zip ss).filterMap
        (fun p => if kind p.2 then some p.1 else none) =
      (answers features rows ws ss).filterMap (·.settingsIf features kind) := by
  have h := (dealt_toSettings : Dealt _ _ (answers features rows ws ss) ss).filterMap_zip kind
  rwa [filterMap_row_answers] at h

theorem isSome_toWhitelist (hlen : (rows.filterMap Row.whitelistChange?).length ≤ ws.length)
    (h : a ∈ answers features rows ws ss) (hc : a.row.whitelistChange?.isSome = true) :
    a.toWhitelist.isSome = true :=
  dealt_toWhitelist.isSome (by rwa [filterMap_row_answers]) h hc

theorem isSome_toSettings
    (hlen : (rows.filterMap (Row.settingsChange? features)).length ≤ ss.length)
    (h : a ∈ answers features rows ws ss) (hc : (a.row.settingsChange? features).isSome = true) :
    a.toSettings.isSome = true :=
  dealt_toSettings.isSome (by rwa [filterMap_row_answers]) h hc

end Dealing

end AccelForm
