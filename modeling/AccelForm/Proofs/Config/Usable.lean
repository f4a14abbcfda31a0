import AccelForm.Proofs.Config.Build
import AccelForm.Proofs.Text.Trim
/-
  Settings that can be used

  Which settings make a configuration can be said of all of them together
  (`Layer.IsUsable`), whatever the order in which they are looked at: there is
  an address of the web with a host, there are credentials, and numbers and
  names are within their limits. One equivalence for each check is put together
  to one for all of them.
-/

namespace AccelForm

/-! ## An address of the web has a host -/

namespace Url

open Config.Loader (of_bind_eq_ok of_map_eq_ok)

theorem Host.text_ne_empty_of_read {chars : List Char} {host : Host}
    (h : read chars = .ok host) : host.text ≠ "" := by
  unfold read at h
  split at h
  · split at h
    · cases h
      simp [text]
    · cases h
  · split at h
    · cases h
    · split at h
      · cases h
      · next hname =>
        split at h
        · split at h
          · -- an address of four bytes has three points
            cases h
            rw [ne_eq, ← String.toList_eq_nil_iff, text, String.toList_intercalate]
            simp
          · cases h
        · cases h
          rw [List.isEmpty_iff] at hname
          simpa [text] using hname

theorem exists_read_of_readWeb {scheme : String} {usual : Nat} {cs : List Char} {url : Url}
    (h : readWeb scheme usual cs = .ok url) : ∃ chars, Host.read chars = .ok url.host := by
  unfold readWeb at h
  dsimp only at h
  split at h
  · cases h
  · obtain ⟨host, hhost, h⟩ := of_bind_eq_ok h
    obtain ⟨port, _, h⟩ := of_bind_eq_ok h
    cases h
    exact ⟨_, hhost⟩

theorem host_text_ne_empty {s : String} {url : Url} (h : Address.read s = .ok (.web url)) :
    url.host.text ≠ "" := by
  unfold Address.read at h
  dsimp only at h
  split at h
  · cases h
  · split at h
    · obtain ⟨url', hurl, heq⟩ := of_map_eq_ok h
      cases heq
      obtain ⟨_, hhost⟩ := exists_read_of_readWeb hurl
      exact Host.text_ne_empty_of_read hhost
    · obtain ⟨_, _, heq⟩ := of_map_eq_ok h
      cases heq

end Url

theorem Text.trim_eq_empty_iff {s : String} : trim s = "" ↔ isBlankText s = true := by
  unfold trim isBlankText
  rw [← trimChars_eq_nil_iff, ← String.toList_eq_nil_iff, String.toList_ofList]

namespace Config

/-! ## Base addresses -/

theorem getLast?_dropSlashes (s : String) : (dropSlashes s).toList.getLast? ≠ some '/' := by
  unfold dropSlashes
  rw [String.toList_ofList, Text.dropEnd_eq_rdropWhile]
  intro hlast
  have hne : s.toList.rdropWhile (· == '/') ≠ [] := by
    intro hnil
    rw [hnil] at hlast
    cases hlast
  rw [List.getLast?_eq_some_getLast hne, Option.some_inj] at hlast
  exact List.rdropWhile_last_not _ _ hne (beq_iff_eq.2 hlast)

theorem exists_eq_dropSlashes_append (s : String) :
    ∃ n, s.toList = (dropSlashes s).toList ++ List.replicate n '/' := by
  have hslashes : ∀ c ∈ s.toList.rtakeWhile (· == '/'), c = '/' := fun c hc =>
    beq_iff_eq.1 (List.mem_rtakeWhile_imp (p := (· == '/')) hc)
  refine ⟨(s.toList.rtakeWhile (· == '/')).length, ?_⟩
  unfold dropSlashes
  rw [← List.eq_replicate_length.2 hslashes, String.toList_ofList, Text.dropEnd_eq_rdropWhile,
    List.rdropWhile, List.rtakeWhile, ← List.reverse_append, List.takeWhile_append_dropWhile,
    List.reverse_reverse]

theorem normalBaseUrl_eq_ok_iff {raw base : String} : normalBaseUrl raw = .ok base ↔
    ∃ url, Url.Address.read (Text.trim raw) = .ok (.web url) ∧
      (url.scheme = "http" ∨ url.scheme = "https") ∧ dropSlashes url.text = base := by
  unfold normalBaseUrl
  dsimp only
  by_cases hempty : Text.trim raw = ""
  · have hread : Url.Address.read "" = .error .relative := rfl
    rw [if_pos hempty, hempty, hread]
    simp
  · rw [if_neg hempty]
    cases Url.Address.read (Text.trim raw) with
    | error e => simp
    | ok address =>
      cases address with
      | other scheme => simp [addressParts]
      | web url =>
        have hscheme : baseSchemes.contains url.scheme = true ↔
            url.scheme = "http" ∨ url.scheme = "https" := by simp [baseSchemes]
        dsimp only [addressParts]
        split
        · next h => simp [hscheme.1 h]
        · next h => simp [mt hscheme.2 h]

/-! ## One equivalence for each check -/

namespace Loader

theorem exists_credentials?_iff {l : Layer} : (∃ c, credentials? l = some c) ↔
    l.apiToken.isSome ∨ (l.username.isSome ∧ l.password.isSome) := by
  unfold credentials?
  cases l.apiToken <;> cases l.username <;> cases l.password <;> simp

theorem targetProblem?_eq_none_iff {t : Target} : targetProblem? t = none ↔
    Text.trim t.app ≠ "" ∧ Text.trim t.owner ≠ "" ∧ Text.trim t.realm ≠ "" ∧
      0 < t.displayLimit := by
  simp only [ne_eq, Text.trim_eq_empty_iff]
  unfold targetProblem?
  split
  · next name value hfound =>
    have hblank := List.find?_some hfound
    have hmem := List.mem_of_find?_eq_some hfound
    refine iff_of_false (Option.some_ne_none _) ?_
    rintro ⟨happ, howner, hrealm, _⟩
    simp only [List.mem_cons, Prod.mk.injEq, List.not_mem_nil, or_false] at hmem
    rcases hmem with ⟨_, rfl⟩ | ⟨_, rfl⟩ | ⟨_, rfl⟩
    · exact happ hblank
    · exact howner hblank
    · exact hrealm hblank
  · next hfound =>
    have hall := List.find?_eq_none.1 hfound
    simp only [List.forall_mem_cons, List.not_mem_nil] at hall
    obtain ⟨happ, howner, hrealm, _⟩ := hall
    simp [happ, howner, hrealm, Nat.pos_iff_ne_zero]

theorem isComplete_iff {l : Layer} : l.isComplete = true ↔
    l.baseUrl.isSome ∧ (l.apiToken.isSome ∨ (l.username.isSome ∧ l.password.isSome)) := by
  unfold Layer.isComplete
  simp

end Loader

/-! ## All checks together -/

/-- Whether settings are complete and within their limits, those that are missing being the usual
ones. -/
structure Layer.IsUsable (l : Layer) : Prop where
  address : ∃ raw url, l.baseUrl = some raw ∧
    Url.Address.read (Text.trim raw) = .ok (.web url) ∧
    (url.scheme = "http" ∨ url.scheme = "https") ∧ url.host.text ≠ ""
  credentials : l.apiToken.isSome ∨ (l.username.isSome ∧ l.password.isSome)
  timeout : 1 ≤ (l.timeout.getD (.ofSeconds defaultTimeout)).wholeSeconds ∧
    (l.timeout.getD (.ofSeconds defaultTimeout)).wholeSeconds ≤ 3600
  maxRetries : l.maxRetries.getD defaultRetries ≤ 10
  sessionLifetime : 60 < l.sessionLifetime.getD defaultLifetime ∧
    l.sessionLifetime.getD defaultLifetime ≤ 86400
  app : Text.trim (l.app.getD Target.standard.app) ≠ ""
  owner : Text.trim (l.owner.getD Target.standard.owner) ≠ ""
  realm : Text.trim (l.realm.getD Target.standard.realm) ≠ ""
  displayLimit : 0 < l.displayLimit.getD Target.standard.displayLimit

namespace Loader

theorem isUsable_of_build {l : Loader} {c : Config} (h : l.build = .ok c) : l.layer.IsUsable := by
  obtain ⟨_, raw, base, credentials, hraw, hbase, hcredentials, hlimit, htarget, _⟩ :=
    build_eq_ok_iff.1 h
  obtain ⟨url, hread, hscheme, _⟩ := normalBaseUrl_eq_ok_iff.1 hbase
  obtain ⟨htimeout, hretries, hlifetime⟩ := limitProblem?_eq_none_iff.1 hlimit
  obtain ⟨happ, howner, hrealm, hdisplay⟩ := targetProblem?_eq_none_iff.1 htarget
  exact { address := ⟨raw, url, hraw, hread, hscheme, Url.host_text_ne_empty hread⟩
          credentials := exists_credentials?_iff.1 ⟨credentials, hcredentials⟩
          timeout := htimeout
          maxRetries := hretries
          sessionLifetime := hlifetime
          app := happ
          owner := howner
          realm := hrealm
          displayLimit := hdisplay }

/-- A missing profile does not matter, since the settings are complete without it. -/
theorem exists_build_of_isUsable {l : Loader} (h : l.layer.IsUsable) : ∃ c, l.build = .ok c := by
  obtain ⟨raw, url, hraw, hread, hscheme, _⟩ := h.address
  obtain ⟨credentials, hcredentials⟩ := exists_credentials?_iff.2 h.credentials
  have hcomplete : l.layer.isComplete = true := isComplete_iff.2 ⟨by rw [hraw]; rfl, h.credentials⟩
  have hbase : normalBaseUrl raw = .ok (dropSlashes url.text) :=
    normalBaseUrl_eq_ok_iff.2 ⟨url, hread, hscheme, rfl⟩
  have hlimit : limitProblem? (connection l.layer (dropSlashes url.text)) = none :=
    limitProblem?_eq_none_iff.2 ⟨h.timeout, h.maxRetries, h.sessionLifetime⟩
  have htarget : targetProblem? (target l.layer) = none :=
    targetProblem?_eq_none_iff.2 ⟨h.app, h.owner, h.realm, h.displayLimit⟩
  exact ⟨_, build_eq_ok_iff.2
    ⟨if_pos hcomplete, raw, _, credentials, hraw, hbase, hcredentials, hlimit, htarget, rfl⟩⟩

/-- There is a configuration exactly of settings that can be used, and its base address is the
address that is given less all slashes at its end. -/
theorem build_exact (l : Loader) : ((∃ c, l.build = .ok c) ↔ l.layer.IsUsable) ∧
    ∀ c, l.build = .ok c →
      c.connection.baseUrl.toList.getLast? ≠ some '/' ∧
      ∃ raw url n, l.layer.baseUrl = some raw ∧
        Url.Address.read (Text.trim raw) = .ok (.web url) ∧
        url.text.toList = c.connection.baseUrl.toList ++ List.replicate n '/' := by
  refine ⟨⟨fun ⟨_, h⟩ => isUsable_of_build h, exists_build_of_isUsable⟩, fun c h => ?_⟩
  obtain ⟨_, raw, base, _, hraw, hbase, _, _, _, rfl⟩ := build_eq_ok_iff.1 h
  obtain ⟨url, hread, _, rfl⟩ := normalBaseUrl_eq_ok_iff.1 hbase
  obtain ⟨n, hn⟩ := exists_eq_dropSlashes_append url.text
  exact ⟨getLast?_dropSlashes url.text, raw, url, n, hraw, hread, hn⟩

end Loader

end Config

end AccelForm
