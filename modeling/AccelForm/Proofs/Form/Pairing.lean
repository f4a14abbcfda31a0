import AccelForm.Form.Basic
import Mathlib.Data.List.Infix
/-
  Pairing macros with data models

  The rows of a form are made by going through the macros in order. Each macro
  takes the first data model of its name that is left, or is passed over if
  there is none; what no macro took follows at the end. `Turns` keeps the
  record of it, and the rows are read off the record (`Turns.pair_eq`).

  What is proved of the record: nothing is lost or invented (`Turns.perm`),
  the macros are all there in their order (`Turns.map_fst`), and of the name of
  a macro that was passed over the macros before it had taken every data model
  (`Turns.taken_of_passed`). `rows_of_assets` says it of the rows.
-/

namespace AccelForm

open Rest (SearchMacro DataModel)

namespace Whitelist

theorem modelName?_eq_some_iff {name model : String} :
    modelName? name = some model ↔ model ≠ "" ∧ name = macroName model := by
  unfold modelName?
  simp only [Option.bind_eq_some_iff, List.isPrefixOf?_eq_some_iff_append_eq,
    List.isSuffixOf?_eq_some_iff_append_eq]
  constructor
  · rintro ⟨rest, hhead, cs, htail, hcs⟩
    cases hempty : cs.isEmpty with
    | true => simp [hempty] at hcs
    | false =>
      obtain rfl : String.ofList cs = model := by simpa [hempty] using hcs
      refine ⟨by simpa using hempty, ?_⟩
      apply String.ext
      simp [macroName, ← hhead, ← htail]
  · rintro ⟨hmodel, rfl⟩
    refine ⟨model.toList ++ macroTail.toList, by simp [macroName], model.toList, rfl, ?_⟩
    simp [hmodel]

theorem macroName_injective : Function.Injective macroName := by
  intro a b h
  apply String.ext
  simpa [macroName] using congrArg String.toList h

end Whitelist

namespace Row

/-! ## Taking a data model -/

theorem takeModel?_eq_some {name : String} {models others : List DataModel} {dm : DataModel}
    (h : takeModel? name models = some (dm, others)) :
    dm.name = name ∧ ∃ before after, models = before ++ dm :: after ∧ others = before ++ after ∧
      ∀ x ∈ before, x.name ≠ name := by
  induction models generalizing others with
  | nil => cases h
  | cons x rest ih =>
    unfold takeModel? at h
    split at h
    · next hx =>
      cases h
      exact ⟨hx, [], rest, rfl, rfl, by simp⟩
    · next hx =>
      obtain ⟨⟨found, others'⟩, htake, heq⟩ := Option.map_eq_some_iff.1 h
      cases heq
      obtain ⟨hname, before, after, rfl, rfl, hbefore⟩ := ih htake
      refine ⟨hname, x :: before, after, rfl, rfl, ?_⟩
      intro y hy
      rcases List.mem_cons.1 hy with rfl | hy
      · exact hx
      · exact hbefore y hy

theorem takeModel?_eq_none {name : String} {models : List DataModel}
    (h : takeModel? name models = none) : ∀ dm ∈ models, dm.name ≠ name := by
  induction models with
  | nil => simp
  | cons x rest ih =>
    unfold takeModel? at h
    split at h
    · cases h
    · next hx =>
      have hrest := ih (Option.map_eq_none_iff.1 h)
      intro dm hdm
      rcases List.mem_cons.1 hdm with rfl | hdm
      · exact hx
      · exact hrest dm hdm

theorem takeModelOf?_eq_some {m : SearchMacro} {models others : List DataModel} {dm : DataModel}
    (h : takeModelOf? m models = some (dm, others)) :
    Whitelist.modelName? m.name = some dm.name ∧ ∃ before after,
      models = before ++ dm :: after ∧ others = before ++ after ∧
        ∀ x ∈ before, x.name ≠ dm.name := by
  obtain ⟨name, hname, htake⟩ := Option.bind_eq_some_iff.1 h
  obtain ⟨rfl, hsplit⟩ := takeModel?_eq_some htake
  exact ⟨hname, hsplit⟩

theorem takeModelOf?_eq_none {m : SearchMacro} {models : List DataModel} {name : String}
    (h : takeModelOf? m models = none) (hname : Whitelist.modelName? m.name = some name) :
    ∀ dm ∈ models, dm.name ≠ name := by
  rw [takeModelOf?, hname] at h
  exact takeModel?_eq_none h

/-! ## Turns -/

/-- The macros in order, each with the data model that it takes, and the data models left in the
end. -/
inductive Turns : List SearchMacro → List DataModel → List (SearchMacro × Option DataModel) →
    List DataModel → Prop where
  | done (models : List DataModel) : Turns [] models [] models
  | take {m : SearchMacro} {macros : List SearchMacro} {models others left : List DataModel}
      {dm : DataModel} {turns : List (SearchMacro × Option DataModel)}
      (h : takeModelOf? m models = some (dm, others)) (rest : Turns macros others turns left) :
      Turns (m :: macros) models ((m, some dm) :: turns) left
  | pass {m : SearchMacro} {macros : List SearchMacro} {models left : List DataModel}
      {turns : List (SearchMacro × Option DataModel)}
      (h : takeModelOf? m models = none) (rest : Turns macros models turns left) :
      Turns (m :: macros) models ((m, none) :: turns) left

/-- The row of a turn, if a data model was taken. -/
def ofTurn? (t : SearchMacro × Option DataModel) : Option Row :=
  t.2.map (ofModel (some t.1.name) (Whitelist.decode t.1.definition))

theorem exists_turns (macros : List SearchMacro) (models : List DataModel) :
    ∃ turns left, Turns macros models turns left := by
  induction macros generalizing models with
  | nil => exact ⟨[], models, .done models⟩
  | cons m macros ih =>
    cases h : takeModelOf? m models with
    | none =>
      obtain ⟨turns, left, rest⟩ := ih models
      exact ⟨_, left, .pass h rest⟩
    | some found =>
      obtain ⟨turns, left, rest⟩ := ih found.2
      exact ⟨_, left, .take h rest⟩

namespace Turns
variable {macros : List SearchMacro} {models left : List DataModel}
  {turns : List (SearchMacro × Option DataModel)}

theorem pair_eq (h : Turns macros models turns left) :
    pair macros models = turns.filterMap ofTurn? ++ left.map (ofModel none "") := by
  induction h with
  | done models => rfl
  | @take m _ _ others _ dm _ h _ ih =>
    have hrow : ofTurn? (m, some dm) =
      some (ofModel (some m.name) (Whitelist.decode m.definition) dm) := rfl
    rw [pair, h, List.filterMap_cons_some hrow, List.cons_append, ← ih]
  | pass h _ ih =>
    rw [pair, h, List.filterMap_cons_none rfl]
    exact ih

theorem map_fst (h : Turns macros models turns left) : turns.map Prod.fst = macros := by
  induction h with
  | done models => rfl
  | take _ _ ih => rw [List.map_cons, ih]
  | pass _ _ ih => rw [List.map_cons, ih]

theorem perm (h : Turns macros models turns left) :
    (turns.filterMap Prod.snd ++ left).Perm models := by
  induction h with
  | done models => exact .refl models
  | take h _ ih =>
    obtain ⟨_, before, after, rfl, rfl, _⟩ := takeModelOf?_eq_some h
    exact (ih.cons _).trans List.perm_middle.symm
  | pass _ _ ih => exact ih

theorem sublist (h : Turns macros models turns left) : left.Sublist models := by
  induction h with
  | done models => exact .refl models
  | take h _ ih =>
    obtain ⟨_, before, after, rfl, rfl, _⟩ := takeModelOf?_eq_some h
    exact ih.trans ((List.Sublist.refl before).append (List.sublist_cons_self _ after))
  | pass _ _ ih => exact ih

theorem macroName_eq (h : Turns macros models turns left) {m : SearchMacro} {dm : DataModel}
    (ht : (m, some dm) ∈ turns) : Whitelist.macroName dm.name = m.name := by
  induction h with
  | done models => cases ht
  | take h _ ih =>
    rcases List.mem_cons.1 ht with heq | ht
    · cases heq
      exact (Whitelist.modelName?_eq_some_iff.1 (takeModelOf?_eq_some h).1).2.symm
    · exact ih ht
  | pass _ _ ih =>
    rcases List.mem_cons.1 ht with heq | ht
    · cases heq
    · exact ih ht

/-- Of the name of a macro that is passed over, the macros before it took all data models, in their
order. -/
theorem taken_of_passed (h : Turns macros models turns left) {m : SearchMacro}
    {before after : List (SearchMacro × Option DataModel)} (ht : turns = before ++ (m, none) :: after)
    {name : String} (hname : Whitelist.modelName? m.name = some name) :
    (before.filterMap Prod.snd).filter (·.name = name) = models.filter (·.name = name) := by
  induction h generalizing before with
  | done models => simp at ht
  | @take m' _ models others _ dm _ h _ ih =>
    cases before with
    | nil => cases ht
    | cons t before =>
      rw [List.cons_append, List.cons.injEq] at ht
      obtain ⟨rfl, ht⟩ := ht
      -- the data model that was taken is the first one of its name
      obtain ⟨_, front, back, rfl, rfl, hfront⟩ := takeModelOf?_eq_some h
      have hothers := ih ht
      by_cases hdm : dm.name = name
      · have hnone : front.filter (·.name = name) = [] := by
          rw [List.filter_eq_nil_iff]
          intro x hx
          simpa [hdm] using hfront x hx
        simp [hdm, hothers, hnone]
      · simp [hdm, hothers]
  | @pass m' _ models _ _ h _ ih =>
    cases before with
    | nil =>
      obtain ⟨rfl, _⟩ : m' = m ∧ _ := by simpa using ht
      have hnone : models.filter (·.name = name) = [] := by
        rw [List.filter_eq_nil_iff]
        intro x hx
        simpa using takeModelOf?_eq_none h hname x hx
      simp [hnone]
    | cons t before =>
      rw [List.cons_append, List.cons.injEq] at ht
      obtain ⟨rfl, ht⟩ := ht
      rw [List.filterMap_cons_none rfl]
      exact ih ht

end Turns

/-- A row has a macro and the whitelist that it defines, or neither. -/
theorem mem_pair {macros : List SearchMacro} {models : List DataModel} {r : Row}
    (h : r ∈ pair macros models) : (∃ dm, r = ofModel none "" dm) ∨ ∃ (m : SearchMacro) (dm : DataModel),
      Whitelist.macroName dm.name = m.name ∧
        r = ofModel (some m.name) (Whitelist.decode m.definition) dm := by
  obtain ⟨turns, left, hturns⟩ := exists_turns macros models
  rw [hturns.pair_eq] at h
  rcases List.mem_append.1 h with h | h
  · obtain ⟨⟨m, taken⟩, ht, hr⟩ := List.mem_filterMap.1 h
    obtain ⟨dm, rfl, rfl⟩ := Option.map_eq_some_iff.1 hr
    exact .inr ⟨m, dm, hturns.macroName_eq ht, rfl⟩
  · obtain ⟨dm, _, rfl⟩ := List.mem_map.1 h
    exact .inl ⟨dm, rfl⟩

end Row

namespace Form

/-- The rows of assets come from the data models, each from one. Those with a macro come first, in
the order of the macros, with the whitelist that the macro defines, saved and shown; the rest follow
in the order of the data models, with no macro and an empty whitelist. A macro takes only a data
model that it is named after, and is passed over only if none of that name is left. -/
theorem rows_of_assets (release : Option Release) (displayLimit : Nat) (assets : Assets) :
    ∃ (turns : List (SearchMacro × Option DataModel)) (left : List DataModel),
      (ofAssets release displayLimit assets).rows =
        turns.filterMap (fun t => t.2.map fun dm => {
          model := dm.name
          macroName := some t.1.name
          savedWhitelist := Whitelist.decode t.1.definition
          whitelist := Whitelist.decode t.1.definition
          baseline := dm.content.loaded
          attributes := dm.content.loaded
          status := none }) ++
        left.map (fun dm => {
          model := dm.name
          macroName := none
          savedWhitelist := ""
          whitelist := ""
          baseline := dm.content.loaded
          attributes := dm.content.loaded
          status := none }) ∧
      (turns.filterMap Prod.snd ++ left).Perm assets.models ∧
      left.Sublist assets.models ∧
      turns.map Prod.fst = assets.macros ∧
      (∀ m dm, (m, some dm) ∈ turns → Whitelist.macroName dm.name = m.name) ∧
      ∀ before m after, turns = before ++ (m, none) :: after →
        ∀ name, Whitelist.modelName? m.name = some name →
          (before.filterMap Prod.snd).filter (·.name = name) =
            assets.models.filter (·.name = name) := by
  obtain ⟨turns, left, h⟩ := Row.exists_turns assets.macros assets.models
  refine ⟨turns, left, h.pair_eq, h.perm, h.sublist, h.map_fst, ?_, ?_⟩
  · intro m dm ht
    exact h.macroName_eq ht
  · intro before m after ht name hname
    exact h.taken_of_passed ht hname

example : (Row.pair [⟨"cim_Orphan_indexes", "()", none, false⟩,
      ⟨"cim_Web_indexes", "(index=web)", none, false⟩, ⟨"cim__indexes", "()", none, false⟩,
      ⟨"cim_Web_indexes", "(index=other)", none, false⟩]
    [⟨"Email", .empty⟩, ⟨"Web", .empty⟩]).map (fun r => (r.model, r.macroName, r.whitelist)) =
      [("Web", some "cim_Web_indexes", "web"), ("Email", none, "")] := by decide +kernel

end Form

end AccelForm
