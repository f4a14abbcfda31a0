import AccelForm.Form.View
import AccelForm.Proofs.Acceleration.Remedy
import AccelForm.Proofs.Form.InPlace
/-
  Problems that can be seen and fixed

  All settings of a row are checked, but a form shows and edits those that the
  release of the server has. So a problem is one of two kinds. Where the
  release has the setting, it is shown beside the setting, every edit of the
  setting is accepted, and one of them leaves it without a problem. Where the
  release has not got the setting yet, the problem is among those of the row
  and nowhere else, and every edit is refused (`problems_shown`).
-/

namespace AccelForm

/-! ## What is shown -/

theorem Row.problemOf_eq_some {r : Row} {p : Problem} (h : p ∈ r.problems) :
    Row.problemOf r.problems p.setting = some p := by
  have hsome : (r.problems.find? (·.setting = p.setting)).isSome = true :=
    List.find?_isSome.2 ⟨p, h, by simp⟩
  obtain ⟨q, hq⟩ := Option.isSome_iff_exists.1 hsome
  have hsetting : q.setting = p.setting := by simpa using List.find?_some hq
  rw [Row.problemOf, hq, Bag.eq_of_mem_problems (List.mem_of_find?_eq_some hq) h hsetting]

namespace Form
variable {f : Form} {s : Setting}

/-- The release of the server is known and has not got the setting yet. -/
def Predates (f : Form) (s : Setting) : Prop :=
  ∃ release, f.release = some release ∧
    ((s = .schedulePriority ∧ release.atLeast ⟨[6, 5]⟩ = false) ∨
      (s = .pollBucketsUntilMaxtime ∧ release.atLeast ⟨[6, 6]⟩ = false))

/-- What a form offers is what the release of its server has. -/
theorem Reachable.features_eq (h : f.Reachable) :
    f.features = f.release.elim Features.newest Features.ofRelease := by
  induction h with
  | load hf =>
    obtain ⟨version, displayLimit, assets, rfl⟩ := loaded_iff.1 hf
    rfl
  | @perform f hf op ih =>
    rw [perform_eq_with_rows]
    exact ih

theorem Reachable.allows_eq_false_iff (h : f.Reachable) :
    f.features.allows s = false ↔ f.Predates s := by
  rw [h.features_eq, Predates]
  cases f.release with
  | none => cases s <;> simp [Features.newest, Features.allows]
  | some release => cases s <;> simp [Features.ofRelease, Features.allows]

theorem mem_settings_viewAt_iff {place : Nat} {r : Row} {sv : SettingView} :
    sv ∈ (f.viewAt place r).settings ↔ f.features.allows sv.setting = true ∧
      sv = r.settingView sv.setting := by
  show sv ∈ f.features.settings.map r.settingView ↔ _
  rw [Features.settings, List.mem_map]
  constructor
  · rintro ⟨s, hs, rfl⟩
    exact ⟨(List.mem_filter.1 hs).2, rfl⟩
  · rintro ⟨hs, hsv⟩
    exact ⟨sv.setting, List.mem_filter.2 ⟨Setting.mem_all _, hs⟩, hsv.symm⟩

theorem exists_row_of_mem_views {v : RowView} (h : v ∈ f.views) :
    ∃ place, ∃ r ∈ f.rows, v = f.viewAt place r := by
  obtain ⟨place, hplace, rfl⟩ := List.mem_mapIdx.1 h
  exact ⟨place, f.rows[place], List.getElem_mem hplace, rfl⟩

end Form

/-! ## What can be edited -/

namespace Editing
variable {f : Form} {model : String} {s : Setting}

theorem run_setSetting_of_not_allowed (h : f.features.allows s = false) (value : Json) :
    (setSetting model s value).run f = .error (.settingUnavailable s) f :=
  run_bind_of_error _ (run_setAttribute_of_not_offered h)

theorem run_setSetting_of_isFirst {place : Nat} {r : Row} (h : f.features.allows s = true)
    (hr : f.IsFirst model place r) (value : Json) :
    (setSetting model s value).run f = .ok (r.attributes.insert s.attributeName value).problems
      (f.withRow place { r with attributes := r.attributes.insert s.attributeName value }) :=
  run_bind_of_ok _ (run_setAttribute_of_isFirst h hr)

end Editing

namespace Form
variable {f : Form}

/-- What is shown of a problem of a row, on any release of a server. If the release has the setting,
the problem is shown with it, every edit of the setting is accepted, and there is one after which it
has no problem. If the release has not got the setting yet, the setting is not shown and every edit
of it is refused, which changes nothing. -/
theorem problems_shown (h : f.Reachable) {v : RowView} (hv : v ∈ f.views) {p : Problem}
    (hp : p ∈ v.problems) :
    (¬ f.Predates p.setting →
      (∃ sv ∈ v.settings, sv.setting = p.setting ∧ sv.problem = some p) ∧
      (∀ value, ∃ ps g, (Editing.setSetting v.model p.setting value).run f = .ok ps g) ∧
      ∃ value ps g, (Editing.setSetting v.model p.setting value).run f = .ok ps g ∧
        p.setting ∉ ps.map Problem.setting) ∧
    (f.Predates p.setting →
      (∀ sv ∈ v.settings, sv.setting ≠ p.setting) ∧
      ∀ value, (Editing.setSetting v.model p.setting value).run f =
        .error (.settingUnavailable p.setting) f) := by
  obtain ⟨place, r, hr, rfl⟩ := exists_row_of_mem_views hv
  change p ∈ r.problems at hp
  rw [← h.allows_eq_false_iff, Bool.not_eq_false]
  refine ⟨fun hallows => ?_, fun hwithheld => ⟨fun sv hsv heq => ?_, fun value => ?_⟩⟩
  · obtain ⟨first, x, hfirst⟩ := exists_isFirst (List.mem_map.2 ⟨r, hr, rfl⟩)
    have hrun := Editing.run_setSetting_of_isFirst hallows hfirst
    refine ⟨?_, fun value => ⟨_, _, hrun value⟩, ?_⟩
    · exact ⟨r.settingView p.setting, mem_settings_viewAt_iff.2 ⟨hallows, rfl⟩, rfl,
        Row.problemOf_eq_some hp⟩
    · exact ⟨p.setting.remedy, _, _, hrun _, x.attributes.not_mem_problems_insert_remedy _⟩
  · rw [← heq, (mem_settings_viewAt_iff.1 hsv).1] at hwithheld
    cases hwithheld
  · exact Editing.run_setSetting_of_not_allowed hwithheld value

/-- A form of an old release with a priority that is none. -/
def outdated : Form :=
  ofAssets (releaseOf (.ok "6.4.2")) 70
    ⟨[], [], [⟨"Web", .ofList [("acceleration", .string "1"),
      ("acceleration.schedule_priority", .string "urgent"),
      ("acceleration.manual_rebuilds", flagValue false)]⟩], []⟩

/-- On the release of the form there was no priority yet. -/
theorem predates_of_release_eq (h : f.release = outdated.release) :
    f.Predates .schedulePriority := by
  have hparts : (Release.read "6.4.2").parts = [6, 4, 2] := by decide +kernel
  have hrelease : f.release = some ⟨[6, 4, 2]⟩ :=
    h.trans (congrArg (some ∘ Release.mk) hparts)
  refine ⟨_, hrelease, .inl ⟨rfl, ?_⟩⟩
  simp only [Release.atLeast, Release.order, Release.compareParts]
  decide

/-- The same form with a number set to what is none. -/
def outdatedAgain : Form := outdated.perform (.setSetting "Web" .maxTime (.string "soon"))

/-- Of two problems of a row on an old release, one is shown with its setting and can be fixed, the
other is not shown with a setting and its setting cannot be edited. -/
theorem outdatedAgain_problems_shown :
    outdatedAgain.Reachable ∧ ∃ v ∈ outdatedAgain.views,
      v.problems = [.maxTimeNotInteger, .unknownPriority] ∧
      (∃ sv ∈ v.settings, sv.setting = .maxTime ∧ sv.problem = some .maxTimeNotInteger) ∧
      (∃ value ps g, (Editing.setSetting v.model .maxTime value).run outdatedAgain = .ok ps g ∧
        .maxTime ∉ ps.map Problem.setting) ∧
      (∀ sv ∈ v.settings, sv.setting ≠ .schedulePriority) ∧
      ∀ value, (Editing.setSetting v.model .schedulePriority value).run outdatedAgain =
        .error (.settingUnavailable .schedulePriority) outdatedAgain := by
  have hreach : outdatedAgain.Reachable := (Reachable.load (loaded_ofAssets _ _ _)).perform _
  have hproblems : outdatedAgain.views.map (·.problems) =
      [[.maxTimeNotInteger, .unknownPriority]] := by decide +kernel
  obtain ⟨v, hviews, hv⟩ := List.map_eq_singleton_iff.1 hproblems
  have hmem : v ∈ outdatedAgain.views := by simp [hviews]
  have hoffered : ¬ outdatedAgain.Predates .maxTime := by
    rintro ⟨_, _, ⟨h, _⟩ | ⟨h, _⟩⟩ <;> cases h
  have hpredates : outdatedAgain.Predates .schedulePriority :=
    predates_of_release_eq (by rw [outdatedAgain, perform_eq_with_rows])
  have hshown := problems_shown hreach hmem (show .maxTimeNotInteger ∈ v.problems by simp [hv])
  have hhidden := problems_shown hreach hmem (show .unknownPriority ∈ v.problems by simp [hv])
  exact ⟨hreach, v, hmem, hv, (hshown.1 hoffered).1, (hshown.1 hoffered).2.2,
    (hhidden.2 hpredates).1, (hhidden.2 hpredates).2⟩

/-- On an old release a row has a problem that is not shown with a setting, and every edit of the
setting that has it is refused. -/
theorem outdated_problem_hidden :
    outdated.Reachable ∧ ∃ v ∈ outdated.views, ∃ p ∈ v.problems,
      (∀ sv ∈ v.settings, sv.setting ≠ p.setting) ∧
      ∀ value, (Editing.setSetting v.model p.setting value).run outdated =
        .error (.settingUnavailable p.setting) outdated := by
  have hreach : outdated.Reachable := .load (loaded_ofAssets _ _ _)
  have hproblems : outdated.views.map (·.problems) = [[.unknownPriority]] := by decide +kernel
  obtain ⟨v, hviews, hv⟩ := List.map_eq_singleton_iff.1 hproblems
  have hmem : v ∈ outdated.views := by simp [hviews]
  have hwithheld : outdated.features.allows .schedulePriority = false :=
    hreach.allows_eq_false_iff.2 (predates_of_release_eq rfl)
  refine ⟨hreach, v, hmem, .unknownPriority, by simp [hv], fun sv hsv hs => ?_,
    Editing.run_setSetting_of_not_allowed hwithheld⟩
  obtain ⟨place, r, _, rfl⟩ := exists_row_of_mem_views hmem
  have hallowed := (mem_settings_viewAt_iff.1 hsv).1
  rw [hs] at hallowed
  exact absurd (hallowed.symm.trans hwithheld) (by decide)

end Form

end AccelForm
