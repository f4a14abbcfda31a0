import AccelForm.Proofs.Acceleration.Check
import AccelForm.Proofs.Attribute.Change
import AccelForm.Proofs.Json.Order
import Mathlib.Data.List.Pairwise
import Mathlib.Logic.Function.Basic
/-
  Bags in any order

  Setting the same attributes in different orders makes bags that give every
  name the same value and have their attributes in different orders
  (`Reordered`). Nothing that is checked, compared or sent tells such bags
  apart: the checks and the parameters look names up, and for a comparison the
  attributes are put in the order of their names.
-/

namespace AccelForm

/-- Whether two names are not names of one setting. -/
def Setting.Apart (k l : String) : Prop := ∀ s, ofName? k = some s → ofName? l ≠ some s

theorem Setting.Apart.symm {k l : String} (h : Apart k l) : Apart l k :=
  fun s hl hk => h s hk hl

/-- Entries under names that do not repeat are determined by what each name stands for, up to
order. -/
theorem perm_of_findEntry_eq {es es' : List (String × Json)} (h : (es.map Prod.fst).Nodup)
    (h' : (es'.map Prod.fst).Nodup) (heq : ∀ k, findEntry k es = findEntry k es') :
    es.Perm es' := by
  refine (List.perm_ext_iff_of_nodup h.of_map h'.of_map).2 fun e => ?_
  rw [← findEntry_eq_some_iff h, ← findEntry_eq_some_iff h', heq]

namespace Bag

/-- Whether two bags give every name the same value, in whatever order they hold them. -/
def Reordered (a b : Bag) : Prop := a.get? = b.get?

namespace Reordered
variable {a a' b b' : Bag}

theorem get?_eq (h : a.Reordered b) (k : String) : a.get? k = b.get? k := congrFun h k

/-- Two such bags have the same entries up to order. -/
theorem perm (h : a.Reordered b) : a.entries.Perm b.entries :=
  perm_of_findEntry_eq a.nodup b.nodup h.get?_eq

theorem insert (h : a.Reordered b) (key : String) (value : Json) :
    (a.insert key value).Reordered (b.insert key value) :=
  funext fun k => by rw [get?_insert, get?_insert, h.get?_eq]

theorem comparable (h : a.Reordered b) : a.comparable.Reordered b.comparable :=
  funext fun k => get?_comparable_congr (h.get?_eq k)

theorem normal_toJson_eq (h : a.Reordered b) : a.toJson.normal = b.toJson.normal := by
  rw [toJson, toJson, Json.normal, Json.normal, Json.normalMembers_perm a.nodup h.perm]

theorem differs_eq (ha : a.Reordered a') (hb : b.Reordered b') : a.differs b = a'.differs b' := by
  rw [differs, differs, same, same, Json.same, Json.same, ha.comparable.normal_toJson_eq,
    hb.comparable.normal_toJson_eq]

theorem problems_eq (h : a.Reordered b) : a.problems = b.problems := by
  rw [problems, problems, enabled?_congr (h.get?_eq _), detailProblems_congr fun _ _ => h.get?_eq _]

theorem params_eq (h : a.Reordered b) (f : Features) : a.params f = b.params f := by
  have hparam : a.param? = b.param? := funext fun s => by rw [param?, param?, h.get?_eq]
  rw [params, params, tagsParam?, tagsParam?, hparam, h.get?_eq]

end Reordered

/-! ## Setting settings in any order -/

/-- The bag with the setting set that a name and a value give, if the name is one of a setting. -/
def assign (b : Bag) (e : String × Json) : Bag :=
  match Setting.ofName? e.1 with
  | some s => b.insert s.attributeName e.2
  | none => b

theorem assign_eq_insert {e : String × Json} {s : Setting} (h : Setting.ofName? e.1 = some s)
    (b : Bag) : b.assign e = b.insert s.attributeName e.2 := by
  rw [assign, h]

/-- What each name stands for after that. -/
def assigned (values : String → Option Json) (e : String × Json) : String → Option Json :=
  match Setting.ofName? e.1 with
  | some s => Function.update values s.attributeName (some e.2)
  | none => values

theorem get?_assign (b : Bag) (e : String × Json) : (b.assign e).get? = assigned b.get? e := by
  unfold assign assigned
  split
  · funext k
    rw [get?_insert, Function.update_apply]
  · rfl

theorem get?_foldl_assign (es : List (String × Json)) (b : Bag) :
    (es.foldl assign b).get? = es.foldl assigned b.get? := by
  induction es generalizing b with
  | nil => rfl
  | cons e rest ih => rw [List.foldl_cons, List.foldl_cons, ih, get?_assign]

/-- Two assignments that can be made in either order. -/
def Commute (e e' : String × Json) : Prop :=
  ∀ values, assigned (assigned values e) e' = assigned (assigned values e') e

instance : Std.Symm Commute := ⟨fun _ _ h values => (h values).symm⟩

theorem commute_of_apart {e e' : String × Json} (h : Setting.Apart e.1 e'.1) : Commute e e' := by
  intro values
  unfold assigned
  cases he : Setting.ofName? e.1 with
  | none => rfl
  | some s =>
    cases he' : Setting.ofName? e'.1 with
    | none => rfl
    | some t =>
      have hne : s.attributeName ≠ t.attributeName := fun heq =>
        h s he (he'.trans (congrArg some (Setting.attributeName_inj.1 heq).symm))
      exact Function.update_comm hne _ _ _

/-- Settings are set alike in whatever order, if no setting is named twice. -/
theorem Reordered.foldl_assign {a b : Bag} (h : a.Reordered b) {es es' : List (String × Json)}
    (hperm : es.Perm es') (hapart : es.Pairwise fun e e' => Setting.Apart e.1 e'.1) :
    (es.foldl assign a).Reordered (es'.foldl assign b) := by
  have hcommute : ∀ e ∈ es, ∀ e' ∈ es, Commute e e' := fun _ he _ he' =>
    (hapart.imp commute_of_apart).forall_of_forall (fun _ _ _ => rfl) he he'
  -- as functions of the name the assignments commute, although the bags they make differ
  unfold Reordered
  rw [get?_foldl_assign, get?_foldl_assign, h, hperm.foldl_eq' hcommute]

end Bag

end AccelForm
