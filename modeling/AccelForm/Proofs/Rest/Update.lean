import AccelForm.Proofs.Url.Segment
import AccelForm.Rest.Client
/-
  Addresses of what is updated

  An address in a namespace has the owner and the app as segments of their own,
  so it tells them and what follows them apart (`namespacedAddress_inj`). Search
  macros and data models follow in collections of different names: an address
  is that of one object only (`update_addresses`).
-/

namespace AccelForm.Rest

theorem namespacedAddress_inj {base owner app rest owner' app' rest' : String} :
    namespacedAddress base owner app rest = namespacedAddress base owner' app' rest' ↔
      owner = owner' ∧ app = app' ∧ rest = rest' := by
  unfold namespacedAddress
  simp only [String.append_assoc, String.append_right_inj, Url.encodeSegment_append_inj]

theorem macroAddress_inj {base owner app name owner' app' name' : String} :
    macroAddress base owner app name = macroAddress base owner' app' name' ↔
      owner = owner' ∧ app = app' ∧ name = name' := by
  unfold macroAddress
  rw [namespacedAddress_inj, String.append_right_inj, Url.encodeSegment_inj]

theorem dataModelAddress_inj {base owner app name owner' app' name' : String} :
    dataModelAddress base owner app name = dataModelAddress base owner' app' name' ↔
      owner = owner' ∧ app = app' ∧ name = name' := by
  unfold dataModelAddress
  rw [namespacedAddress_inj, String.append_right_inj, Url.encodeSegment_inj]

theorem macroAddress_ne_dataModelAddress (base owner app name owner' app' name' : String) :
    macroAddress base owner app name ≠ dataModelAddress base owner' app' name' := by
  intro h
  have hrest := congrArg String.toList (namespacedAddress_inj.1 h).2.2
  simp at hrest

/-- The characters that would split an address, cut it short or be rewritten in it. -/
def dividers : List Char := ['/', '?', '#', '\\', ' ']

theorem dividers_reserved {c : Char} (h : c ∈ dividers) : c ∈ Url.segmentReserved ∧ c ≠ '%' := by
  have hall : dividers.all (fun c => Url.segmentReserved.contains c && c != '%') = true := by
    decide
  have hc := List.all_eq_true.1 hall c h
  simpa using hc

/-- What is updated has an address of its own: a name is read back from its segment, which holds
nothing that divides an address; so of the search macros and data models with one base address, two
have the same address only if both are macros, or both data models, of the same owner, app and
name. -/
theorem update_addresses (base : String) :
    (∀ s, Url.decode? (Url.encodeSegment s) = some s ∧
      ∀ c ∈ dividers, c ∉ (Url.encodeSegment s).toList) ∧
    (∀ owner app name owner' app' name',
      macroAddress base owner app name = macroAddress base owner' app' name' ↔
        owner = owner' ∧ app = app' ∧ name = name') ∧
    (∀ owner app name owner' app' name',
      dataModelAddress base owner app name = dataModelAddress base owner' app' name' ↔
        owner = owner' ∧ app = app' ∧ name = name') ∧
    ∀ owner app name owner' app' name',
      macroAddress base owner app name ≠ dataModelAddress base owner' app' name' := by
  refine ⟨?_, ?_, ?_, ?_⟩
  · intro s
    refine ⟨Url.decode?_encode Url.reversible_segmentEscaped s, ?_⟩
    intro c hc
    obtain ⟨hreserved, hpercent⟩ := dividers_reserved hc
    exact Url.not_mem_encodeSegment hreserved hpercent s
  · intro owner app name owner' app' name'
    exact macroAddress_inj
  · intro owner app name owner' app' name'
    exact dataModelAddress_inj
  · exact macroAddress_ne_dataModelAddress base

/-- An owner that looks like the rest of an address takes no other one's place. -/
example : macroAddress "https://h:8089" "nobody/app" "a%2Fb" "m" =
    "https://h:8089/servicesNS/nobody%2Fapp/a%252Fb/admin/macros/m" := by
  decide +kernel

end AccelForm.Rest
