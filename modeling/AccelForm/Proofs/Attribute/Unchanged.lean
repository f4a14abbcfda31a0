import AccelForm.Proofs.Attribute.Change
import AccelForm.Proofs.Json.Sameness
/-
  What is unchanged is sent unchanged

  A comparison puts two switches into one spelling and drops what says where
  an entity came from; the parameters put all three switches into one spelling
  and hold what the server offers. The two agree: bags that do not differ are
  sent under the same names in the same order, and with the same text for
  every plain value. What is left out is what sameness does not see, the sign
  of a zero and the order of the members of an object.
-/

namespace AccelForm

theorem flag?_flagValue (on : Bool) : flag? (flagValue on) = some on := by
  cases on <;> rfl

namespace Bag

/-! ## Values of bags that do not differ -/

/-- Names of the same bag stand for the same values. -/
theorem normal_get?_of_same {a b : Bag} (h : a.same b = true) (k : String) :
    (a.get? k).map Json.normal = (b.get? k).map Json.normal := by
  have hm : Json.normalMembers a.entries = Json.normalMembers b.entries := by
    simpa [toJson, Json.normal] using Json.same_iff.1 h
  rw [get?, get?, ← Json.findEntry_normalMembers, ← Json.findEntry_normalMembers, hm]

def compared (k : String) (v : Json) : Json := if k ∈ respelledNames then respelled v else v

theorem get?_comparable_of_not_mem {k : String} (hk : k ∉ provenanceAttributes) (b : Bag) :
    b.comparable.get? k = (b.get? k).map (compared k) := by
  rw [get?_comparable, if_neg hk]
  by_cases hr : k ∈ respelledNames
  · rw [if_pos hr]
    congr 1
    funext v
    rw [compared, if_pos hr]
  · have hid : compared k = id := by
      funext v
      rw [compared, if_neg hr, id]
    rw [if_neg hr, hid, Option.map_id_fun, id]

theorem compared_of_differs_eq_false {a b : Bag} (h : a.differs b = false) {k : String}
    (hk : k ∉ provenanceAttributes) :
    (a.get? k).map (fun v => (compared k v).normal) =
      (b.get? k).map fun v => (compared k v).normal := by
  have hsame : a.comparable.same b.comparable = true := by simpa [differs] using h
  have hk' := normal_get?_of_same hsame k
  rwa [get?_comparable_of_not_mem hk, get?_comparable_of_not_mem hk, Option.map_map,
    Option.map_map] at hk'

theorem contains_of_differs_eq_false {a b : Bag} (h : a.differs b = false) {k : String}
    (hk : k ∉ provenanceAttributes) : a.contains k = b.contains k := by
  have hmap := congrArg Option.isSome (compared_of_differs_eq_false h hk)
  rwa [Option.isSome_map, Option.isSome_map] at hmap

/-! ## Texts of values that are compared equal -/

/-- Spelled alike, two values read alike as switches, and are the same if they do not read. -/
theorem flag?_of_respelled {v w : Json} (h : (respelled v).normal = (respelled w).normal) :
    flag? v = flag? w ∧ (flag? v = none → v.normal = w.normal) := by
  -- a value that does not read cannot be the same as the spelling of one that does
  have hno : ∀ {on : Bool} {u : Json}, flag? u = none → (flagValue on).normal ≠ u.normal := by
    intro on u hu heq
    rw [← Json.eq_of_normal_eq rfl heq, flag?_flagValue] at hu
    cases hu
  unfold respelled at h
  cases hv : flag? v with
  | none =>
    cases hw : flag? w with
    | none => simpa [hv, hw] using h
    | some on =>
      rw [hv, hw] at h
      exact absurd h.symm (hno hv)
  | some on =>
    cases hw : flag? w with
    | none =>
      rw [hv, hw] at h
      exact absurd h (hno hw)
    | some on' =>
      rw [hv, hw] at h
      have hon : flag? (flagValue on) = flag? (flagValue on') :=
        congrArg flag? (Json.eq_of_normal_eq rfl h)
      rw [flag?_flagValue, flag?_flagValue] at hon
      exact ⟨hon, fun hnone => by cases hnone⟩

theorem SentAs.eq {k : String} {v : Json} {t u : String} (ht : SentAs k v t) (hu : SentAs k v u) :
    t = u := by
  rcases ht with ⟨s, on, hk, hs, hv, rfl⟩ | ⟨hno, rfl⟩
  · rcases hu with ⟨_, on', _, _, hv', rfl⟩ | ⟨hno, _⟩
    · rw [hv, Option.some.injEq] at hv'
      rw [hv']
    · rw [hno s hk hs] at hv
      cases hv
  · rcases hu with ⟨s, _, hk, hs, hv, _⟩ | ⟨_, rfl⟩
    · rw [hno s hk hs] at hv
      cases hv
    · rfl

/-- A switch that can be read is sent by what it says alone. -/
theorem SentAs.eq_of_flag {k : String} {s : Setting} {v w : Json} {t u : String} {on : Bool}
    (hk : k = s.attributeName) (hs : s.isSwitch = true) (hv : flag? v = some on)
    (hw : flag? w = some on) (ht : SentAs k v t) (hu : SentAs k w u) : t = u :=
  (ht.eq (.inl ⟨s, on, hk, hs, hv, rfl⟩)).trans (hu.eq (.inl ⟨s, on, hk, hs, hw, rfl⟩)).symm

theorem exists_switch_of_mem_respelledNames {k : String} (h : k ∈ respelledNames) :
    ∃ s : Setting, k = s.attributeName ∧ s.isSwitch = true := by
  simp only [respelledNames, respelledSettings, List.map_cons, List.map_nil, List.mem_cons,
    List.not_mem_nil, or_false] at h
  rcases h with rfl | rfl
  · exact ⟨.enabled, rfl, rfl⟩
  · exact ⟨.manualRebuilds, rfl, rfl⟩

/-- Values that are compared equal, one of them plain, are sent with one text. -/
theorem SentAs.eq_of_compared {k : String} {v w : Json} {t u : String}
    (hplain : v.isPlain = true ∨ w.isPlain = true)
    (h : (compared k v).normal = (compared k w).normal) (ht : SentAs k v t) (hu : SentAs k w u) :
    t = u := by
  have heq : v.normal = w.normal → t = u := by
    intro hn
    have hvw : v = w := hplain.elim (Json.eq_of_normal_eq · hn)
      fun hw => (Json.eq_of_normal_eq hw hn.symm).symm
    exact ht.eq (hvw ▸ hu)
  by_cases hr : k ∈ respelledNames
  · rw [compared, compared, if_pos hr, if_pos hr] at h
    obtain ⟨hflag, hnormal⟩ := flag?_of_respelled h
    cases hv : flag? v with
    | none => exact heq (hnormal hv)
    | some on =>
      obtain ⟨s, hk, hs⟩ := exists_switch_of_mem_respelledNames hr
      exact ht.eq_of_flag hk hs hv (hflag ▸ hv) hu
  · rw [compared, compared, if_neg hr, if_neg hr] at h
    exact heq h

/-! ## Parameters -/

theorem filter_params_of_get?_eq_some {b : Bag} {f : Features} {k : String} {v : Json}
    (hk : k ∈ f.editable) (hv : b.get? k = some v) :
    ∃ t, SentAs k v t ∧ (b.params f).filter (·.1 = k) = [(k, t)] := by
  obtain ⟨t, ht, hm⟩ := mem_params hk hv
  exact ⟨t, ht, filter_fst_eq_singleton (nodup_map_fst_params b f) hm⟩

theorem filter_params_of_not_mem {f : Features} {k : String} (hk : k ∉ f.editable) (b : Bag) :
    (b.params f).filter (·.1 = k) = [] := by
  rw [List.filter_eq_nil_iff]
  intro p hp hpk
  have hm : p.1 ∈ (b.params f).map Prod.fst := List.mem_map_of_mem hp
  rw [map_fst_params, of_decide_eq_true hpk] at hm
  exact hk (List.mem_filter.1 hm).1

/-- Bags that do not differ are sent under the same names in the same order, whatever the server
offers, and with the same text for every name to which either of them gives a plain value. -/
theorem params_of_differs_eq_false {a b : Bag} (h : a.differs b = false) (f : Features) :
    (a.params f).map Prod.fst = (b.params f).map Prod.fst ∧
    ∀ k v, v.isPlain = true → a.get? k = some v ∨ b.get? k = some v →
      (a.params f).filter (·.1 = k) = (b.params f).filter (·.1 = k) := by
  constructor
  · rw [map_fst_params, map_fst_params]
    refine List.filter_congr fun k hk => ?_
    exact contains_of_differs_eq_false h (Features.not_mem_provenance_of_mem_editable hk)
  · intro k v hplain hget
    by_cases hk : k ∈ f.editable
    · have hcompared :=
        compared_of_differs_eq_false h (Features.not_mem_provenance_of_mem_editable hk)
      -- the name has a value in both bags, as it has one in either
      obtain ⟨x, y, hx, hy, hxy⟩ : ∃ x y, a.get? k = some x ∧ b.get? k = some y ∧
          (compared k x).normal = (compared k y).normal := by
        rcases hget with hv | hv
        · rw [hv, Option.map_some, eq_comm, Option.map_eq_some_iff] at hcompared
          obtain ⟨y, hy, hxy⟩ := hcompared
          exact ⟨v, y, hv, hy, hxy.symm⟩
        · rw [hv, Option.map_some, Option.map_eq_some_iff] at hcompared
          obtain ⟨x, hx, hxy⟩ := hcompared
          exact ⟨x, v, hx, hv, hxy⟩
      have hplain : x.isPlain = true ∨ y.isPlain = true := by
        rw [hx, hy, Option.some.injEq, Option.some.injEq] at hget
        rcases hget with rfl | rfl
        · exact .inl hplain
        · exact .inr hplain
      obtain ⟨t, ht, hta⟩ := filter_params_of_get?_eq_some hk hx
      obtain ⟨u, hu, hub⟩ := filter_params_of_get?_eq_some hk hy
      rw [hta, hub, ht.eq_of_compared hplain hxy hu]
    · rw [filter_params_of_not_mem hk, filter_params_of_not_mem hk]

/-- A bag as a server lists it. -/
def listed : Bag := .ofList [("eai:appName", .string "cim"), ("acceleration", .string "Yes"),
  ("acceleration.max_time", .number (.int 3600)), ("acceleration.manual_rebuilds", .null),
  ("tags_whitelist", .string "web")]

/-- The same bag as another server lists it: in another order and spelling, and of another app. -/
def relisted : Bag := .ofList [("tags_whitelist", .string "web"),
  ("acceleration.manual_rebuilds", .null),
  ("acceleration", .number (.real ⟨false, oneCode, by decide⟩)),
  ("acceleration.max_time", .number (.int 3600)), ("eai:userName", .string "nobody")]

theorem listed_params_of_differs_eq_false :
    listed.differs relisted = false ∧
    (listed.params .newest).map Prod.fst = (relisted.params .newest).map Prod.fst ∧
    (listed.params .newest).filter (·.1 = "acceleration") =
      (relisted.params .newest).filter (·.1 = "acceleration") :=
  have hsame : listed.differs relisted = false := by decide +kernel
  have hparams := params_of_differs_eq_false hsame .newest
  ⟨hsame, hparams.1, hparams.2 "acceleration" (.string "Yes") rfl (.inl (by decide +kernel))⟩

end Bag

end AccelForm
