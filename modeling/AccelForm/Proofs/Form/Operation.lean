import AccelForm.Form.Backend
import AccelForm.Proofs.Form.Opening
/-
  Operations on an open form

  What can be done with a form once it is open, as data: the edits, selecting,
  discarding, and a save together with what the server says to its updates.
  A form is reachable if a chain of operations leads to it from a form that
  some server opened. Nothing is assumed of the servers: opening quantifies
  over every backend with a state of its own, and a save over every choice of
  replies. `loaded_iff` says which forms a server can open; `exists_saveWith`
  says that a save on any such backend is a save with some replies.
-/

namespace AccelForm

/-- What the server says to the updates of a save, by their places in the plan. -/
structure Replies where
  whitelist : Nat → UpdateResult
  settings : Nat → UpdateResult

namespace Replies

def toWhitelists (replies : Replies) (p : Plan) : List UpdateResult :=
  p.whitelists.mapIdx fun n _ => replies.whitelist n

def toSettings (replies : Replies) (p : Plan) : List UpdateResult :=
  p.settings.mapIdx fun n _ => replies.settings n

end Replies

/-- What can be done with an open form. -/
inductive Operation where
  | select (model : String)
  | setWhitelist (model display : String)
  | setSetting (model : String) (s : Setting) (value : Json)
  | setTags (model tags : String)
  | discard
  | save (replies : Replies)

namespace Form

/-- A save to whose updates the server gives the replies. -/
def saveWith (f : Form) (replies : Replies) : SaveReport × Form :=
  f.settle (replies.toWhitelists f.plan) (replies.toSettings f.plan)

/-- The form after an operation. One that is refused changes nothing. -/
def perform (f : Form) : Operation → Form
  | .select model => (f.select model).toOption.getD f
  | .setWhitelist model display => (f.setWhitelist model display).toOption.getD f
  | .setSetting model s value => (f.setSetting model s value).toOption.getD f
  | .setTags model tags => (f.setTags model tags).toOption.getD f
  | .discard => f.discard
  | .save replies => (f.saveWith replies).2

def run (f : Form) (ops : List Operation) : Form := ops.foldl perform f

/-- A form that some backend opens. -/
def Loaded (f : Form) : Prop :=
  ∃ (σ : Type) (b : Backend (StateM σ)) (capability : String) (displayLimit : Nat) (s : σ),
    ((load b capability displayLimit).run s).1 = .ok f

/-- A form that operations lead to from one that some backend opens. -/
inductive Reachable : Form → Prop where
  | load {f : Form} (h : Loaded f) : Reachable f
  | perform {f : Form} (h : Reachable f) (op : Operation) : Reachable (f.perform op)

theorem Reachable.run {f : Form} (h : Reachable f) (ops : List Operation) :
    Reachable (f.run ops) := by
  induction ops generalizing f with
  | nil => exact h
  | cons op ops ih => exact ih (h.perform op)

theorem Reachable.saveWith {f : Form} (h : Reachable f) (replies : Replies) :
    Reachable (f.saveWith replies).2 := h.perform (.save replies)

/-! ## Opening -/

/-- A backend that gives the same answers at all times. -/
def steadyBackend (version : Except Rest.Fault String) (assets : Assets) :
    Backend (StateM Unit) where
  hasCapability _ := pure (.ok true)
  serverVersion := pure version
  searchMacros := pure (.ok assets.macros)
  indexes := pure (.ok assets.indexes)
  dataModels := pure (.ok assets.models)
  tags := pure (.ok assets.tags)
  updateMacro _ _ := pure (.ok ())
  updateDataModel _ _ := pure (.ok ())

theorem loaded_ofAssets (version : Except Rest.Fault String) (displayLimit : Nat)
    (assets : Assets) : Loaded (ofAssets (releaseOf version) displayLimit assets) :=
  ⟨Unit, steadyBackend version assets, "", displayLimit, (), rfl⟩

theorem exists_ofAssets_of_load {σ : Type} {b : Backend (StateM σ)} {capability : String}
    {displayLimit : Nat} {s : σ} {f : Form}
    (h : ((load b capability displayLimit).run s).1 = .ok f) :
    ∃ version assets, f = ofAssets (releaseOf version) displayLimit assets := by
  rcases hload : (load b capability displayLimit).run s with ⟨result, s'⟩
  rw [hload] at h
  obtain rfl : result = .ok f := h
  obtain ⟨version, assets, _, _, _, _, _, _, _, _, _, _, _, hf⟩ := opens_of_load hload
  exact ⟨version, assets, hf⟩

theorem loaded_iff {f : Form} : Loaded f ↔
    ∃ version displayLimit assets, f = ofAssets (releaseOf version) displayLimit assets := by
  constructor
  · rintro ⟨σ, b, capability, displayLimit, s, h⟩
    obtain ⟨version, assets, hf⟩ := exists_ofAssets_of_load h
    exact ⟨version, displayLimit, assets, hf⟩
  · rintro ⟨version, displayLimit, assets, rfl⟩
    exact loaded_ofAssets version displayLimit assets

/-! ## Saving -/

theorem length_mapM_run {σ α β : Type} (g : α → StateM σ β) (l : List α) (s : σ) :
    ((l.mapM g).run s).1.length = l.length := by
  induction l generalizing s with
  | nil => rfl
  | cons a l ih =>
    rw [List.mapM_cons]
    show ((l.mapM g).run ((g a).run s).2).1.length + 1 = l.length + 1
    rw [ih]

/-- Replies in a list, one to each update, as replies by place. -/
theorem mapIdx_getD {α : Type} {l : List α} {rs : List UpdateResult}
    (h : rs.length = l.length) : l.mapIdx (fun n _ => rs.getD n (.ok ())) = rs := by
  apply List.ext_getElem
  · simp [h]
  · intro n hn hr
    simp [hr]

/-- A save is a save with the replies that the backend gives. -/
theorem exists_saveWith {σ : Type} (b : Backend (StateM σ)) (f : Form) (s : σ) :
    ∃ replies, ((f.save b).run s).1 = f.saveWith replies := by
  let ws := (f.plan.whitelists.mapM fun c => b.updateMacro c.macroName c.definition).run s
  let ss := (f.plan.settings.mapM fun c => b.updateDataModel c.model c.params).run ws.2
  refine ⟨⟨fun n => ws.1.getD n (.ok ()), fun n => ss.1.getD n (.ok ())⟩, ?_⟩
  rw [saveWith, Replies.toWhitelists, Replies.toSettings, mapIdx_getD (length_mapM_run _ _ _),
    mapIdx_getD (length_mapM_run _ _ _)]
  rfl

/-! ## A form with one name twice -/

/-- Two data models of one name and a whitelist macro for that name. -/
def twinAssets : Assets where
  macros := [⟨"cim_Web_indexes", "(index=web)", none, false⟩]
  indexes := []
  models := [⟨"Web", .ofList [("acceleration", .string "0"), ("eai:appName", .string "cim")]⟩,
    ⟨"Web", .ofList [("acceleration", .string "0")]⟩]
  tags := []

/-- A form with two rows of one name, the first of them with a whitelist, on a server whose release
could not be read. -/
def twins : Form := ofAssets (releaseOf (.error (.timeout ⟨0⟩))) 70 twinAssets

theorem twins_loaded : twins.Loaded := loaded_ofAssets _ _ _

/-- Replies by which whitelists are saved and settings are not. -/
def onlyWhitelists : Replies := ⟨fun _ => .ok (), fun _ => .error (.timeout ⟨0⟩)⟩

/-- Replies by which everything is saved. -/
def everything : Replies := ⟨fun _ => .ok (), fun _ => .ok ()⟩

/-- Edits of the whitelist and of a setting. -/
def twinEdits : List Operation :=
  [.setWhitelist "Web" " main, web", .setSetting "Web" .maxTime (.string "60")]

end Form

end AccelForm
