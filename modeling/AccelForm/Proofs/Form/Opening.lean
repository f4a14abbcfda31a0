import AccelForm.Form.Remote
import AccelForm.Proofs.Rest.Calls
/-
  Opening the form of a server

  The form is opened exactly if the caller has the capability and all four
  lists can be read (`load_eq_ok_iff`). All calls read: to open the form
  changes nothing on the server, and servers that answer alike what is read
  open the same form (`alike_load`).
-/

namespace AccelForm

open Rest Client

namespace Form

/-- What it takes to open the form: the caller has the capability, and the four lists are read one
after the other; the release may be unknown. -/
def Opens {σ : Type} (b : Backend (StateM σ)) (capability : String) (displayLimit : Nat)
    (s : σ) (f : Form) (s' : σ) : Prop :=
  ∃ version assets s₁ s₂ s₃ s₄ s₅,
    (b.hasCapability capability).run s = (.ok true, s₁) ∧
    b.serverVersion.run s₁ = (version, s₂) ∧
    b.searchMacros.run s₂ = (.ok assets.macros, s₃) ∧
    b.indexes.run s₃ = (.ok assets.indexes, s₄) ∧
    b.dataModels.run s₄ = (.ok assets.models, s₅) ∧
    b.tags.run s₅ = (.ok assets.tags, s') ∧
    f = ofAssets (releaseOf version) displayLimit assets

theorem of_assetsOf_eq_ok {macros : Except Fault (List SearchMacro)}
    {indexes : Except Fault (List Index)} {models : Except Fault (List DataModel)}
    {tags : Except Fault (List Tag)} {assets : Assets}
    (h : assetsOf macros indexes models tags = .ok assets) :
    macros = .ok assets.macros ∧ indexes = .ok assets.indexes ∧ models = .ok assets.models ∧
      tags = .ok assets.tags := by
  cases macros with
  | error _ => cases h
  | ok _ => cases indexes with
    | error _ => cases h
    | ok _ => cases models with
      | error _ => cases h
      | ok _ => cases tags with
        | error _ => cases h
        | ok _ => cases h; exact ⟨rfl, rfl, rfl, rfl⟩

section Loading
variable {σ : Type} {b : Backend (StateM σ)} {capability : String} {displayLimit : Nat}
  {s s' : σ} {f : Form}

theorem loadAssets_run {version : Except Fault String} {macros : Except Fault (List SearchMacro)}
    {indexes : Except Fault (List Index)} {models : Except Fault (List DataModel)}
    {tags : Except Fault (List Tag)} {s₂ s₃ s₄ s₅ : σ}
    (hv : b.serverVersion.run s = (version, s₂)) (hm : b.searchMacros.run s₂ = (macros, s₃))
    (hi : b.indexes.run s₃ = (indexes, s₄)) (hd : b.dataModels.run s₄ = (models, s₅))
    (ht : b.tags.run s₅ = (tags, s')) :
    (loadAssets b displayLimit).run s =
      (((assetsOf macros indexes models tags).map
        (ofAssets (releaseOf version) displayLimit)).mapError .loadFailure, s') := by
  rw [loadAssets, StateT.run_bind, hv]
  show (b.searchMacros >>= _ : StateM σ _).run s₂ = _
  rw [StateT.run_bind, hm]
  show (b.indexes >>= _ : StateM σ _).run s₃ = _
  rw [StateT.run_bind, hi]
  show (b.dataModels >>= _ : StateM σ _).run s₄ = _
  rw [StateT.run_bind, hd]
  show (b.tags >>= _ : StateM σ _).run s₅ = _
  rw [StateT.run_bind, ht]
  show StateT.run _ s' = _
  cases assetsOf macros indexes models tags <;> rfl

theorem of_loadAssets_eq_ok (h : (loadAssets b displayLimit).run s = (.ok f, s')) :
    ∃ version assets s₂ s₃ s₄ s₅,
      b.serverVersion.run s = (version, s₂) ∧
      b.searchMacros.run s₂ = (.ok assets.macros, s₃) ∧
      b.indexes.run s₃ = (.ok assets.indexes, s₄) ∧
      b.dataModels.run s₄ = (.ok assets.models, s₅) ∧
      b.tags.run s₅ = (.ok assets.tags, s') ∧
      f = ofAssets (releaseOf version) displayLimit assets := by
  rcases hv : b.serverVersion.run s with ⟨version, s₂⟩
  rcases hm : b.searchMacros.run s₂ with ⟨macros, s₃⟩
  rcases hi : b.indexes.run s₃ with ⟨indexes, s₄⟩
  rcases hd : b.dataModels.run s₄ with ⟨models, s₅⟩
  rcases ht : b.tags.run s₅ with ⟨tags, s₆⟩
  rw [loadAssets_run hv hm hi hd ht] at h
  cases hassets : assetsOf macros indexes models tags with
  | error fault =>
    rw [hassets] at h
    cases h
  | ok assets =>
    rw [hassets] at h
    obtain ⟨rfl, rfl, rfl, rfl⟩ := of_assetsOf_eq_ok hassets
    cases h
    exact ⟨version, assets, s₂, s₃, s₄, s₅, rfl, hm, hi, hd, ht, rfl⟩

theorem opens_of_load (h : (load b capability displayLimit).run s = (.ok f, s')) :
    Opens b capability displayLimit s f s' := by
  rw [load, StateT.run_bind] at h
  rcases hc : (b.hasCapability capability).run s with ⟨answer, s₁⟩
  rw [hc] at h
  cases answer with
  | error fault => cases h
  | ok allowed =>
    cases allowed with
    | false => cases h
    | true =>
      obtain ⟨version, assets, s₂, s₃, s₄, s₅, hassets⟩ := of_loadAssets_eq_ok h
      exact ⟨version, assets, s₁, s₂, s₃, s₄, s₅, hc, hassets⟩

theorem load_of_opens (h : Opens b capability displayLimit s f s') :
    (load b capability displayLimit).run s = (.ok f, s') := by
  obtain ⟨version, assets, s₁, s₂, s₃, s₄, s₅, hc, hv, hm, hi, hd, ht, rfl⟩ := h
  rw [load, StateT.run_bind, hc]
  show (loadAssets b displayLimit).run s₁ = _
  rw [loadAssets_run hv hm hi hd ht]
  rfl

/-- The form is opened exactly if the caller has the capability and the four lists are read. -/
theorem load_eq_ok_iff : (load b capability displayLimit).run s = (.ok f, s') ↔
    Opens b capability displayLimit s f s' := ⟨opens_of_load, load_of_opens⟩

theorem exists_opens_of_isSome (b : Backend (StateM σ)) (capability : String)
    (displayLimit : Nat) (s : σ)
    (h : ((load b capability displayLimit).run s).1.toOption.isSome = true) :
    ∃ f s', Opens b capability displayLimit s f s' := by
  rcases hload : (load b capability displayLimit).run s with ⟨result, s'⟩
  rw [hload] at h
  cases result with
  | error e => cases h
  | ok f => exact ⟨f, s', opens_of_load hload⟩

end Loading

/-! ## On a server -/

section Remote
variable {link : Link} {server' : Server}

theorem alike_load (h : link.server.Agrees Request.IsRead server') (t : Config.Target)
    (capability : String) (displayLimit : Nat) :
    Alike Request.IsRead (load (.remote link t) capability displayLimit)
      (load (.remote (link.on server') t) capability displayLimit) := by
  have hcaller := alike_single h "/services/authentication/current-context" "current-context"
    Read.caller
  have hinfo := alike_single h "/services/server/info" "server info" Read.serverInfo
  refine hcaller.map.bind fun answer => ?_
  cases answer with
  | error fault => exact .pure _
  | ok allowed =>
    cases allowed with
    | false => exact .pure _
    | true =>
      refine hinfo.map.bind fun version => ?_
      refine (alike_listing h _ _ _ _ _).map.bind fun macros => ?_
      refine (alike_listing h _ _ _ _ _).map.bind fun indexes => ?_
      refine (alike_listing h _ _ _ _ _).map.bind fun models => ?_
      refine (alike_listing h _ _ _ _ _).map.bind fun tags => ?_
      split <;> exact .pure _

end Remote

end Form

end AccelForm
