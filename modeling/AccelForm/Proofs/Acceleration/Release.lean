import AccelForm.Acceleration.Release
import Mathlib.Data.List.DropRight
import Mathlib.Data.List.GetD
import Mathlib.Order.Compare
import Mathlib.Order.PiLex
/-
  The order of releases

  A release is compared as if zeros went on behind its last number for ever:
  the first place where two of these sequences differ decides
  (`order_eq_lt_iff`). So the order is that of the sequences, which is total,
  and zeros at the end of a release make no difference. An offer depends on
  releases that a server must have reached, so it only grows from one release
  to a newer one (`releases_ordered`).
-/

namespace AccelForm

namespace Release

variable {u v : Release}

/-- The number at a place, zero where there is none. -/
def part (r : Release) (i : Nat) : Nat := r.parts.getD i 0

/-- The numbers without the zeros at their end. -/
def trimmed (r : Release) : List Nat := r.parts.rdropWhile (· == 0)

/-! ## The first difference decides -/

theorem compareParts_swap (as bs : List Nat) :
    compareParts as bs = (compareParts bs as).swap := by
  fun_induction compareParts as bs with
  | case1 => simp [compareParts]
  | case2 a as ih => rw [compareParts, Ordering.swap_then, Nat.compare_swap, ih]
  | case3 b bs ih => rw [compareParts, Ordering.swap_then, Nat.compare_swap, ih]
  | case4 a as b bs ih => rw [compareParts, Ordering.swap_then, Nat.compare_swap, ih]

/-- The numbers in front are compared, then the others: a missing number is a zero. -/
theorem compareParts_eq (as bs : List Nat) : compareParts as bs =
    (compare (as.getD 0 0) (bs.getD 0 0)).then (compareParts as.tail bs.tail) := by
  cases as <;> cases bs <;> simp [compareParts]

theorem getD_tail (l : List Nat) (i : Nat) : l.tail.getD i 0 = l.getD (i + 1) 0 := by
  cases l <;> simp

theorem compareParts_eq_lt_iff (as bs : List Nat) : compareParts as bs = .lt ↔
    ∃ i, (∀ j < i, as.getD j 0 = bs.getD j 0) ∧ as.getD i 0 < bs.getD i 0 := by
  induction h : max as.length bs.length generalizing as bs with
  | zero =>
    have has : as = [] := List.eq_nil_of_length_eq_zero (by omega)
    have hbs : bs = [] := List.eq_nil_of_length_eq_zero (by omega)
    subst has hbs
    simp [compareParts]
  | succ n ih =>
    have htails : max as.tail.length bs.tail.length = n := by simp; omega
    rw [compareParts_eq, Ordering.then_eq_lt, Nat.compare_eq_lt, Nat.compare_eq_eq, ih _ _ htails]
    simp only [getD_tail]
    constructor
    · intro hfirst
      cases hfirst with
      | inl hlt => exact ⟨0, by simp, hlt⟩
      | inr hrest =>
        obtain ⟨hsame, i, hbefore, hlt⟩ := hrest
        refine ⟨i + 1, ?_, hlt⟩
        intro j hj
        cases j with
        | zero => exact hsame
        | succ j => exact hbefore j (by omega)
    · intro hfirst
      obtain ⟨i, hbefore, hlt⟩ := hfirst
      cases i with
      | zero => exact .inl hlt
      | succ i =>
        exact .inr ⟨hbefore 0 (by omega), i, fun j hj => hbefore (j + 1) (by omega), hlt⟩

/-- A release is older than another one if it is so where they differ first. -/
theorem order_eq_lt_iff : u.order v = .lt ↔ toLex u.part < toLex v.part :=
  compareParts_eq_lt_iff u.parts v.parts

theorem order_swap (u v : Release) : u.order v = (v.order u).swap :=
  compareParts_swap u.parts v.parts

/-- The order of releases is that of their numbers, with zeros going on behind them. -/
theorem order_eq_compareOn : order = compareOn fun r => toLex r.part := by
  funext u v
  have hlt : u.order v = .lt ↔ toLex u.part < toLex v.part := order_eq_lt_iff
  have hgt : v.order u = .lt ↔ toLex v.part < toLex u.part := order_eq_lt_iff
  show u.order v = compare (toLex u.part) (toLex v.part)
  rw [order_swap v u] at hgt
  cases h : u.order v with
  | lt => exact (compare_lt_iff_lt.2 (hlt.1 h)).symm
  | gt => exact (compare_gt_iff_gt.2 (hgt.1 (by rw [h]; rfl))).symm
  | eq =>
    rw [h] at hlt hgt
    have hle : toLex v.part ≤ toLex u.part := not_lt.1 fun hless => by simpa using hlt.2 hless
    have hge : toLex u.part ≤ toLex v.part := not_lt.1 fun hless => by simpa using hgt.2 hless
    exact (compare_eq_iff_eq.2 (le_antisymm hge hle)).symm

instance : Std.TransCmp order := by
  rw [order_eq_compareOn]
  infer_instance

theorem order_eq_eq_iff : u.order v = .eq ↔ u.part = v.part := by
  rw [order_eq_compareOn]
  exact compare_eq_iff_eq

/-! ## Zeros at the end -/

theorem getD_trimmed (r : Release) (i : Nat) : r.trimmed.getD i 0 = r.part i := by
  obtain ⟨parts⟩ := r
  unfold trimmed part
  induction parts using List.reverseRecOn with
  | nil => rfl
  | append_singleton parts n ih =>
    rw [List.rdropWhile_concat]
    split
    · next hzero =>
      have hn : n = 0 := by simpa using hzero
      rw [ih, hn]
      simp only [List.getD_eq_getElem?_getD, List.getElem?_append]
      split
      · rfl
      · next hi =>
        rw [List.getElem?_eq_none (by omega)]
        cases i - parts.length <;> simp
    · rfl

/-- With the same numbers, none is the longer one once the zeros at the end are dropped. -/
theorem length_trimmed_le (h : u.part = v.part) : u.trimmed.length ≤ v.trimmed.length := by
  by_contra hlonger
  have hne : u.trimmed ≠ [] := by
    intro hnil
    simp [hnil] at hlonger
  have hlast := List.rdropWhile_last_not (· == 0) u.parts hne
  apply hlast
  -- where one has its last number, the other has come to its end
  have hzero : u.trimmed.getLast hne = 0 := by
    calc u.trimmed.getLast hne = u.trimmed.getD (u.trimmed.length - 1) 0 := by
          rw [List.getLast_eq_getElem, List.getD_eq_getElem]
      _ = v.trimmed.getD (u.trimmed.length - 1) 0 := by rw [getD_trimmed, getD_trimmed, h]
      _ = 0 := List.getD_eq_default _ _ (by omega)
  exact beq_iff_eq.2 hzero

theorem trimmed_eq_iff : u.trimmed = v.trimmed ↔ u.part = v.part := by
  constructor
  · intro h
    funext i
    rw [← getD_trimmed, h, getD_trimmed]
  · intro h
    have hlength := Nat.le_antisymm (length_trimmed_le h) (length_trimmed_le h.symm)
    refine List.ext_getElem hlength ?_
    intro i hu hv
    have hpart := congrFun h i
    rw [← getD_trimmed, ← getD_trimmed, List.getD_eq_getElem _ _ hu, List.getD_eq_getElem _ _ hv]
      at hpart
    exact hpart

/-- What a release has reached, no newer one falls short of. -/
theorem atLeast_of_isLE {r : Release} (h : (u.order v).isLE = true) (hu : u.atLeast r = true) :
    v.atLeast r = true := by
  have hge : (v.order u).isGE = true := by
    rw [order_swap, Ordering.isGE_swap]
    exact h
  exact Std.TransCmp.isGE_trans hge hu

end Release

/-! ## What newer releases offer -/

/-- Whether all that is on one offer is on another one as well. -/
structure Features.Within (f g : Features) : Prop where
  allows (s : Setting) : f.allows s = true → g.allows s = true
  schedulePriority : f.schedulePriority = true → g.schedulePriority = true
  pollBucketsUntilMaxtime : f.pollBucketsUntilMaxtime = true → g.pollBucketsUntilMaxtime = true
  tagsWhitelist : f.tagsWhitelist = true → g.tagsWhitelist = true

namespace Release

variable {u v : Release}

theorem within_of_isLE (h : (u.order v).isLE = true) :
    (Features.ofRelease u).Within (Features.ofRelease v) where
  allows s := by
    cases s with
    | schedulePriority => exact atLeast_of_isLE h
    | pollBucketsUntilMaxtime => exact atLeast_of_isLE h
    | _ => exact id
  schedulePriority := atLeast_of_isLE h
  pollBucketsUntilMaxtime := atLeast_of_isLE h
  tagsWhitelist := atLeast_of_isLE h

/-- Releases are totally ordered: the order can be turned round, and each of its outcomes goes on
from one release over a second to a third, as does not being newer. Releases are equal in it, and
the same, exactly if they agree up to zeros at their ends. All that a release offers every newer one
offers. -/
theorem releases_ordered (u v w : Release) :
    u.order v = (v.order u).swap ∧
    (∀ o, u.order v = o → v.order w = o → u.order w = o) ∧
    ((u.order v).isLE = true → (v.order w).isLE = true → (u.order w).isLE = true) ∧
    (u.order v = .eq ↔ u.trimmed = v.trimmed) ∧
    ((u == v) = true ↔ u.trimmed = v.trimmed) ∧
    ((u.order v).isLE = true → (Features.ofRelease u).Within (Features.ofRelease v)) := by
  have heq : u.order v = .eq ↔ u.trimmed = v.trimmed := order_eq_eq_iff.trans trimmed_eq_iff.symm
  refine ⟨order_swap u v, ?_, Std.TransCmp.isLE_trans, heq, ?_, within_of_isLE⟩
  · intro o huv hvw
    cases o with
    | lt => exact Std.TransCmp.lt_trans huv hvw
    | eq => exact Std.TransCmp.eq_trans huv hvw
    | gt => exact Std.TransCmp.gt_trans huv hvw
  · rw [← heq]
    exact Ordering.isEq_iff_eq_eq

/-- A release with a zero more is the same one, and a patch of the next one is newer than both, so
it offers what they offer. -/
theorem releases_ordered_patch :
    (Release.mk [6, 5]).order ⟨[6, 5, 0]⟩ = .eq ∧ (Release.mk [6, 5, 0]).order ⟨[6, 6, 4]⟩ = .lt ∧
    ((Release.mk [6, 5]).order ⟨[6, 6, 4]⟩).isLE = true ∧
    (Features.ofRelease ⟨[6, 5]⟩).Within (Features.ofRelease ⟨[6, 6, 4]⟩) ∧
    Features.ofRelease ⟨[6, 5]⟩ = ⟨true, false, false⟩ := by
  have hsame : (Release.mk [6, 5]).order ⟨[6, 5, 0]⟩ = .eq := by
    simp only [order, compareParts]
    decide
  have hless : (Release.mk [6, 5, 0]).order ⟨[6, 6, 4]⟩ = .lt := by
    simp only [order, compareParts]
    decide
  have hle : ((Release.mk [6, 5]).order ⟨[6, 6, 4]⟩).isLE = true := by
    apply (releases_ordered ⟨[6, 5]⟩ ⟨[6, 5, 0]⟩ ⟨[6, 6, 4]⟩).2.2.1
    · rw [hsame]
      rfl
    · rw [hless]
      rfl
  refine ⟨hsame, hless, hle, (releases_ordered ⟨[6, 5]⟩ ⟨[6, 6, 4]⟩ ⟨[]⟩).2.2.2.2.2 hle, ?_⟩
  simp only [Features.ofRelease, atLeast, order, compareParts]
  decide

end Release

end AccelForm
