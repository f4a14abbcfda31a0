import AccelForm.Proofs.Form.Settle
/-
  What the server has acknowledged

  A ledger is kept beside every row, and nothing in the form reads it: the row
  as it was loaded, and of the updates that were made from the row the last
  ones that the server acknowledged. It is written from the replies as they
  were dealt to the rows that the plan was made from, not by the names by
  which the form looks rows up; all acknowledged updates of a plan are dealt so,
  in order (`filterMap_whitelistIf`, `filterMap_settingsIf`).
  `baseline_mirrors_ledger` says that through every run the saved whitelist and
  the baseline of a row are what its ledger says, so that a form without its
  edits is what the server last took over.
-/

namespace AccelForm

/-- What is known of the server at a row: the row as it was loaded, and the last definition and
the last parameters sent for it that were acknowledged. -/
structure Ledger where
  loaded : Row
  definition : Option String
  params : Option (List (String × String))

namespace Ledger

/-- The ledger of a row that was just loaded. -/
def opened (r : Row) : Ledger := ⟨r, none, none⟩

/-- The ledger after the replies of one save. -/
def record (features : Features) (l : Ledger) (a : Answer) : Ledger where
  loaded := l.loaded
  definition := (a.acceptedWhitelist?.map (·.definition)).or l.definition
  params := ((a.acceptedSettings? features).map (·.params)).or l.params

/-- Whether the saved whitelist and the baseline of a row are those last acknowledged, or, where
none was, those that were loaded. -/
def Mirrors (features : Features) (l : Ledger) (r : Row) : Prop :=
  (match l.definition with
    | some definition => definition = Whitelist.encode (Whitelist.split r.savedWhitelist)
    | none => r.savedWhitelist = l.loaded.savedWhitelist) ∧
  (match l.params with
    | some params => params = r.baseline.params features
    | none => r.baseline = l.loaded.baseline)

theorem mirrors_opened (features : Features) (r : Row) : Mirrors features (opened r) r :=
  ⟨rfl, rfl⟩

theorem Mirrors.congr {features : Features} {l : Ledger} {r r' : Row} (h : Mirrors features l r)
    (hw : r'.savedWhitelist = r.savedWhitelist) (hb : r'.baseline = r.baseline) :
    Mirrors features l r' := by
  unfold Mirrors at h ⊢
  rwa [hw, hb]

theorem Mirrors.edit {features : Features} {l : Ledger} {r r' : Row} (h : Mirrors features l r)
    (hedit : Row.Edit features r r') : Mirrors features l r' := by
  cases hedit <;> exact h.congr rfl rfl

end Ledger

/-- A ledger mirrors the row that it is kept for, after a save as before. -/
theorem Ledger.Mirrors.record {features : Features} {l : Ledger} {a : Answer}
    (h : l.Mirrors features a.row) :
    (l.record features a).Mirrors features (a.settled features) := by
  obtain ⟨hw, hb⟩ := h
  refine ⟨?_, ?_⟩
  · show match (a.acceptedWhitelist?.map (·.definition)).or l.definition with
      | some definition => definition = _
      | none => _ = l.loaded.savedWhitelist
    rw [Answer.settled_savedWhitelist]
    cases hc : a.acceptedWhitelist? with
    | none => exact hw
    | some c => exact (Row.whitelistChange?_eq_some (Answer.whitelistIf_eq_some hc)).2.2.2
  · show match ((a.acceptedSettings? features).map (·.params)).or l.params with
      | some params => params = _
      | none => _ = l.loaded.baseline
    rw [Answer.settled_baseline]
    cases hc : a.acceptedSettings? features with
    | none => exact hb
    | some c =>
      obtain ⟨_, _, rfl⟩ := Row.settingsChange?_eq_some (Answer.settingsIf_eq_some hc)
      rfl

namespace Form

/-- The ledgers after an operation. Only a save writes to them. -/
def record (f : Form) (ls : List Ledger) : Operation → List Ledger
  | .save replies => List.zipWith (Ledger.record f.features) ls (f.answersTo replies)
  | _ => ls

/-- The ledgers after operations in order, beginning with the given ones. -/
def ledgersFrom (f : Form) (ls : List Ledger) : List Operation → List Ledger
  | [] => ls
  | op :: ops => (f.perform op).ledgersFrom (f.record ls op) ops

/-- The ledgers after operations in order on a form that was just opened. -/
def ledgers (f : Form) (ops : List Operation) : List Ledger :=
  f.ledgersFrom (f.rows.map Ledger.opened) ops

/-- Each row is mirrored by the ledger kept for it. -/
def Mirrored (f : Form) (ls : List Ledger) : Prop :=
  List.Forall₂ (Ledger.Mirrors f.features) ls f.rows

variable {f : Form} {ls : List Ledger}

theorem mirrored_opened (f : Form) : f.Mirrored (f.rows.map Ledger.opened) := by
  unfold Mirrored
  rw [List.forall₂_map_left_iff]
  exact List.forall₂_same.2 fun r _ => Ledger.mirrors_opened f.features r

theorem Mirrored.edit (h : f.Mirrored ls) {op : Operation} (hop : ∀ replies, op ≠ .save replies) :
    (f.perform op).Mirrored ls := by
  unfold Mirrored at h ⊢
  rw [features_perform]
  -- no edit touches what a ledger is about, so row by row nothing is to be written
  have hedit := forall₂_edit_perform f hop
  revert h hedit
  generalize f.rows = rows, (f.perform op).rows = rows'
  intro h hedit
  induction hedit generalizing ls with
  | nil => exact h
  | cons hr _ ih =>
    cases h with
    | cons hl hls => exact .cons (hl.edit hr) (ih hls)

/-- The ledgers of answered rows mirror the rows as they are settled. -/
theorem forall₂_record {features : Features} {as : List Answer}
    (h : List.Forall₂ (fun l a => Ledger.Mirrors features l a.row) ls as)
    (status : Answer → Option Status) :
    List.Forall₂ (Ledger.Mirrors features) (List.zipWith (Ledger.record features) ls as)
      (as.map fun a => { a.settled features with status := status a }) := by
  induction h with
  | nil => exact .nil
  | cons hl _ ih => exact .cons (hl.record.congr rfl rfl) ih

theorem Mirrored.save (h : f.Mirrored ls) (hlead : EditsLead f) (replies : Replies) :
    (f.perform (.save replies)).Mirrored (f.record ls (.save replies)) := by
  unfold Mirrored at h ⊢
  rw [features_perform]
  show List.Forall₂ _ _ (f.settle _ _).2.rows
  rw [settle_rows hlead]
  refine forall₂_record ?_ fun a => SaveReport.status? _ a.row.model
  rwa [← List.forall₂_map_right_iff (f := Answer.row), map_row_answersTo]

theorem Mirrored.perform (h : f.Mirrored ls) (hlead : EditsLead f) (op : Operation) :
    (f.perform op).Mirrored (f.record ls op) := by
  cases op with
  | save replies => exact h.save hlead replies
  | _ => exact h.edit (by rintro replies ⟨⟩)

/-- A ledger is kept for the row that it was opened for. -/
theorem map_loaded_record (h : f.Mirrored ls) (op : Operation) :
    (f.record ls op).map (·.loaded) = ls.map (·.loaded) := by
  cases op with
  | save replies =>
    have hlen : ls.length ≤ (f.answersTo replies).length := by
      have hrows := congrArg List.length (map_row_answersTo f replies)
      rw [List.length_map] at hrows
      have hls := h.length_eq
      omega
    show (List.zipWith (Ledger.record f.features) ls (f.answersTo replies)).map (·.loaded) = _
    generalize f.answersTo replies = as at hlen
    clear h
    induction ls generalizing as with
    | nil => rfl
    | cons l ls ih =>
      cases as with
      | nil => simp at hlen
      | cons a as =>
        rw [List.zipWith_cons_cons, List.map_cons, List.map_cons, ih as (by simpa using hlen)]
        rfl
  | _ => rfl

theorem mirrored_ledgersFrom (h : f.Mirrored ls) (hf : f.Reachable) (ops : List Operation) :
    (f.run ops).Mirrored (f.ledgersFrom ls ops) ∧
      (f.ledgersFrom ls ops).map (·.loaded) = ls.map (·.loaded) := by
  -- the form changes along the run, so the induction is over all forms that mirror their ledgers
  induction ops generalizing f ls with
  | nil => exact ⟨h, rfl⟩
  | cons op ops ih =>
    obtain ⟨hm, hl⟩ := ih (h.perform hf.editsLead op) (hf.perform op)
    exact ⟨hm, hl.trans (map_loaded_record h op)⟩

theorem isDirty_discard (f : Form) : f.discard.isDirty = false := by
  show (f.rows.map Row.discard).any Row.isDirty = false
  rw [List.any_map, List.any_eq_false]
  intro r _
  simp [Row.isDirty_discard]

/-- Through every run the saved whitelist and the baseline of every row are what the server last
acknowledged for it, or what was loaded, if it acknowledged nothing. Discarding the edits makes
them the values of the row, and leaves nothing edited. -/
theorem baseline_mirrors_ledger (hf : f.Loaded) (ops : List Operation) :
    (f.ledgers ops).map (·.loaded) = f.rows ∧
    List.Forall₂ (Ledger.Mirrors f.features) (f.ledgers ops) (f.run ops).rows ∧
    List.Forall₂ (Ledger.Mirrors f.features) (f.ledgers ops) (f.run ops).discard.rows ∧
    (∀ r ∈ (f.run ops).discard.rows, r.whitelist = r.savedWhitelist ∧ r.attributes = r.baseline) ∧
    (f.run ops).discard.isDirty = false := by
  have hreach : f.Reachable := .load hf
  obtain ⟨hm, hl⟩ := mirrored_ledgersFrom (mirrored_opened f) hreach ops
  have hd : (f.run ops).discard.Mirrored (f.ledgers ops) :=
    Mirrored.perform hm (hreach.run ops).editsLead .discard
  have hfeatures := features_run f ops
  refine ⟨?_, hfeatures ▸ hm, hfeatures ▸ hd, ?_, isDirty_discard _⟩
  · rw [ledgers, hl, List.map_map]
    exact List.map_id f.rows
  · intro r hr
    obtain ⟨x, _, rfl⟩ := List.mem_map.1 hr
    exact ⟨rfl, rfl⟩

theorem twins_mirror_ledger :
    let ops := twinEdits ++
      [.save everything, .setSetting "Web" .maxTime (.string "90"), .save onlyWhitelists]
    (twins.ledgers ops).map (fun l => (l.definition, l.params)) =
      [(some "(index=main OR index=web)", some [("acceleration", "0"),
        ("acceleration.max_time", "60"), ("acceleration.manual_rebuilds", "0")]), (none, none)] ∧
    List.Forall₂ (Ledger.Mirrors twins.features) (twins.ledgers ops) (twins.run ops).rows :=
  ⟨by decide +kernel, (baseline_mirrors_ledger twins_loaded _).2.1⟩

end Form

end AccelForm
