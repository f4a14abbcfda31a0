import AccelForm.Config.Writer
import AccelForm.Proofs.Json.Written
import Mathlib.Data.String.Basic
/-
  Configurations as they are stored

  Every setting is written under its name, and a record is read by the names of
  its fields, so each field finds what was written for it. A number comes back
  if it fits 64 bits, a setting that is missing comes back from null, and
  profiles come back in the order of their names, in which they were written.
  A time limit is stored in whole seconds, so a configuration comes back exactly
  if its time limit is one (`Config.recovers_toJson_iff`).
-/

namespace AccelForm

open Json (Fields Reader)

namespace Config

variable {room : Nat}

/-! ## Records -/

/-- Whether the numbers of a connection fit 64 bits. -/
structure Connection.Bounded (c : Connection) : Prop where
  timeout : c.timeout.wholeSeconds < Text.wordBound
  maxRetries : c.maxRetries < Text.wordBound
  renewalMargin : c.renewalMargin < Text.wordBound
  sessionLifetime : c.sessionLifetime < Text.wordBound

structure Profile.Bounded (p : Profile) : Prop where
  timeoutSeconds : ∀ n ∈ p.timeoutSeconds, n < Text.wordBound
  maxRetries : ∀ n ∈ p.maxRetries, n < Text.wordBound
  sessionLifetime : ∀ n ∈ p.sessionLifetime, n < Text.wordBound
  displayLimit : ∀ n ∈ p.displayLimit, n < Text.wordBound

/-- A connection is read as it was written, with its time limit in whole seconds. -/
theorem connection_document {c : Connection} (h : c.Bounded) (hroom : 1 < room) :
    Read.connection room c.toJson.document =
      some { c with timeout := .ofSeconds c.timeout.wholeSeconds } := by
  obtain ⟨fs, hfs, _, hfound⟩ := Fields.exists_read? (rfl : c.toJson = _) (by simp) hroom
  simp only [List.forall_mem_cons] at hfound
  obtain ⟨hbase, hskip, htimeout, hretries, hmargin, hlifetime, _⟩ := hfound
  unfold Read.connection
  refine Option.bind_eq_some_iff.2 ⟨fs, hfs, ?_⟩
  refine Fields.required_bind hbase (Reader.text_document _) ?_
  refine Fields.required_bind hskip (Reader.switch_document _) ?_
  refine Fields.required_bind htimeout (Reader.word_document h.timeout) ?_
  refine Fields.required_bind hretries (Reader.word_document h.maxRetries) ?_
  refine Fields.getD_bind hmargin (Reader.word_document h.renewalMargin) ?_
  refine Fields.getD_bind hlifetime (Reader.word_document h.sessionLifetime) ?_
  rfl

/-- The part that the form is about is read as it was written. -/
theorem target_document {t : Target} (h : t.displayLimit < Text.wordBound) (hroom : 1 < room) :
    Read.target room t.toJson.document = some t := by
  obtain ⟨fs, hfs, _, hfound⟩ := Fields.exists_read? (rfl : t.toJson = _) (by simp) hroom
  simp only [List.forall_mem_cons] at hfound
  obtain ⟨happ, howner, hrealm, hcapability, hlimit, _⟩ := hfound
  unfold Read.target
  refine Option.bind_eq_some_iff.2 ⟨fs, hfs, ?_⟩
  refine Fields.getD_bind happ (Reader.text_document _) ?_
  refine Fields.getD_bind howner (Reader.text_document _) ?_
  refine Fields.getD_bind hrealm (Reader.text_document _) ?_
  refine Fields.getD_bind hcapability (Reader.text_document _) ?_
  refine Fields.getD_bind hlimit (Reader.word_document h) ?_
  rfl

/-- A profile is read as it was written, with every setting that it does not have. -/
theorem profile_document {p : Profile} (h : p.Bounded) (hroom : 1 < room) :
    Read.profile room p.toJson.document = some p := by
  obtain ⟨fs, hfs, _, hfound⟩ := Fields.exists_read? (rfl : p.toJson = _) (by simp) hroom
  simp only [List.forall_mem_cons] at hfound
  obtain ⟨hbase, husername, hpassword, htoken, hskip, htimeout, hretries, hlifetime, happ, howner,
    hrealm, hlimit, _⟩ := hfound
  unfold Read.profile
  refine Option.bind_eq_some_iff.2 ⟨fs, hfs, ?_⟩
  refine Fields.getD_bind hbase (Reader.optionalText_document _) ?_
  refine Fields.getD_bind husername (Reader.optionalText_document _) ?_
  refine Fields.getD_bind hpassword (Reader.optionalText_document _) ?_
  refine Fields.getD_bind htoken (Reader.optionalText_document _) ?_
  refine Fields.getD_bind hskip (Reader.optionalSwitch_document _) ?_
  refine Fields.getD_bind htimeout (Reader.optionalWord_document h.timeoutSeconds) ?_
  refine Fields.getD_bind hretries (Reader.optionalWord_document h.maxRetries) ?_
  refine Fields.getD_bind hlifetime (Reader.optionalWord_document h.sessionLifetime) ?_
  refine Fields.getD_bind happ (Reader.optionalText_document _) ?_
  refine Fields.getD_bind howner (Reader.optionalText_document _) ?_
  refine Fields.getD_bind hrealm (Reader.optionalText_document _) ?_
  refine Fields.getD_bind hlimit (Reader.optionalWord_document h.displayLimit) ?_
  rfl

/-- Credentials are read as they were written: the kind that they name has the fields that they
have. -/
theorem credentials_document (k : Rest.Credentials) (hroom : 1 < room) :
    Read.credentials room k.toJson.document = some k := by
  have hvalue : ∃ w, k.toJson.document.value? room = some w := by
    cases k <;> simp [Rest.Credentials.toJson, Json.document, Json.documentMembers,
      Json.Document.value?, Json.valueMembers?, Nat.not_le.2 hroom]
  obtain ⟨w, hw⟩ := hvalue
  -- the object is read twice, for the kind and then for the fields of that kind alone
  unfold Read.credentials
  refine Option.bind_eq_some_iff.2 ⟨w, hw, ?_⟩
  cases k with
  | login username password =>
    have hwritten : (Rest.Credentials.login username password).toJson = _ := rfl
    obtain ⟨fs, hfs, _, hkind⟩ := Fields.exists_ofObject? hwritten (by simp) hroom ["type"]
    obtain ⟨own, hown, _, hfound⟩ := Fields.exists_ofObject? hwritten (by simp) hroom
      ["username", "password"]
    simp only [List.forall_mem_cons] at hkind hfound
    obtain ⟨_, husername, hpassword, _⟩ := hfound
    refine Option.bind_eq_some_iff.2 ⟨fs, hfs, ?_⟩
    refine Option.bind_eq_some_iff.2 ⟨_, hkind.1 (by simp), ?_⟩
    refine (if_pos rfl).trans ?_
    refine Option.bind_eq_some_iff.2 ⟨own, hown, ?_⟩
    refine Fields.required_bind (husername (by simp)) (Reader.text_document _) ?_
    refine Fields.required_bind (hpassword (by simp)) (Reader.text_document _) ?_
    rfl
  | token secret =>
    have hwritten : (Rest.Credentials.token secret).toJson = _ := rfl
    obtain ⟨fs, hfs, _, hkind⟩ := Fields.exists_ofObject? hwritten (by simp) hroom ["type"]
    obtain ⟨own, hown, _, hfound⟩ := Fields.exists_ofObject? hwritten (by simp) hroom ["token"]
    simp only [List.forall_mem_cons] at hkind hfound
    obtain ⟨_, htoken, _⟩ := hfound
    refine Option.bind_eq_some_iff.2 ⟨fs, hfs, ?_⟩
    refine Option.bind_eq_some_iff.2 ⟨_, hkind.1 (by simp), ?_⟩
    refine (if_neg (by decide)).trans ((if_pos rfl).trans ?_)
    refine Option.bind_eq_some_iff.2 ⟨own, hown, ?_⟩
    refine Fields.required_bind (htoken (by simp)) (Reader.text_document _) ?_
    rfl

/-! ## Profiles in the order of their names -/

/-- Whether profiles stand in the order of their names, no two of them with one name. -/
def Profiles.InOrder (ps : Profiles) : Prop := ps.Pairwise fun p q => p.1 < q.1

/-- A profile whose name comes after all others is put at the end. -/
theorem insertProfile_last {ps : Profiles} {p : String × Profile} (h : ∀ q ∈ ps, q.1 < p.1) :
    Read.insertProfile ps p = ps ++ [p] := by
  induction ps with
  | nil => rfl
  | cons q rest ih =>
    rw [List.forall_mem_cons] at h
    rw [Read.insertProfile, if_neg (ne_of_gt h.1), if_neg (lt_asymm h.1), ih h.2, List.cons_append]

/-- Profiles that come in the order of their names stay in it. -/
theorem foldl_insertProfile {ps : Profiles} (h : ps.InOrder) :
    ps.foldl Read.insertProfile [] = ps := by
  have hbehind (before after : Profiles) (h : (before ++ after).InOrder) :
      after.foldl Read.insertProfile before = before ++ after := by
    induction after generalizing before with
    | nil => exact (List.append_nil before).symm
    | cons p rest ih =>
      have hlast : ∀ q ∈ before, q.1 < p.1 := fun q hq =>
        (List.pairwise_append.1 h).2.2 q hq p (List.mem_cons_self ..)
      rw [List.append_cons] at h ⊢
      rw [List.foldl_cons, insertProfile_last hlast, ih _ h]
  exact hbehind [] ps h

/-- Profiles are read as they were written. -/
theorem profiles_document {ps : Profiles} (horder : ps.InOrder) (h : ∀ p ∈ ps, p.2.Bounded)
    (hroom : 3 < room) : Read.profiles room ps.toJson.document = some ps := by
  obtain ⟨fs, hfs, hfsRoom, hfound⟩ := Fields.exists_read? (rfl : ps.toJson = _) (by simp)
    (Nat.lt_trans (by decide) hroom)
  simp only [List.forall_mem_cons] at hfound
  obtain ⟨hprofiles, _⟩ := hfound
  have hmembers : Reader.members Read.profile fs.room
      (Json.object (ps.map fun p => (p.1, p.2.toJson))).document = some ps := by
    rw [Json.document, Json.documentMembers_eq_map]
    refine Json.members_eq_some_iff.2 ⟨by omega, ?_⟩
    rw [List.map_map, List.forall₂_map_left_iff, List.forall₂_same]
    exact fun p hp => ⟨rfl, profile_document (h p hp) (by omega)⟩
  unfold Read.profiles
  refine Option.bind_eq_some_iff.2 ⟨fs, hfs, ?_⟩
  refine Fields.getD_bind hprofiles hmembers ?_
  exact congrArg some (foldl_insertProfile horder)

/-! ## Whole configurations -/

structure Bounded (c : Config) : Prop where
  connection : c.connection.Bounded
  displayLimit : c.target.displayLimit < Text.wordBound

/-- A configuration with its time limit in whole seconds. -/
def inSeconds (c : Config) : Config :=
  { c with connection :=
    { c.connection with timeout := .ofSeconds c.connection.timeout.wholeSeconds } }

/-- A configuration is read as it was written, with its time limit in whole seconds. -/
theorem read_document {c : Config} (h : c.Bounded) {room : Nat} (hroom : 2 < room) :
    read room c.toJson.document = some c.inSeconds := by
  obtain ⟨fs, hfs, hfsRoom, hfound⟩ := Fields.exists_read? (rfl : c.toJson = _) (by simp)
    (Nat.lt_of_succ_lt hroom)
  have hinner : 1 < fs.room := by omega
  simp only [List.forall_mem_cons] at hfound
  obtain ⟨hconnection, hcredentials, htarget, _⟩ := hfound
  unfold read
  refine Option.bind_eq_some_iff.2 ⟨fs, hfs, ?_⟩
  refine Fields.required_bind hconnection (connection_document h.connection hinner) ?_
  refine Fields.required_bind hcredentials (credentials_document _ hinner) ?_
  refine Fields.getD_bind htarget (target_document h.displayLimit hinner) ?_
  rfl

theorem Connection.integral_toJson {c : Connection} (h : c.Bounded) : c.toJson.Integral := by
  simp [Connection.toJson, Json.Integral, Json.IntegralMembers, Json.integral_nat, h.timeout,
    h.maxRetries, h.renewalMargin, h.sessionLifetime]

theorem Target.integral_toJson {t : Target} (h : t.displayLimit < Text.wordBound) :
    t.toJson.Integral := by
  simp [Target.toJson, Json.Integral, Json.IntegralMembers, Json.integral_nat, h]

theorem Profile.integral_toJson {p : Profile} (h : p.Bounded) : p.toJson.Integral := by
  have htext (a : Option String) : (Json.ofOption .string a).Integral :=
    Json.integral_ofOption fun _ _ => trivial
  have hswitch (a : Option Bool) : (Json.ofOption .bool a).Integral :=
    Json.integral_ofOption fun _ _ => trivial
  have hword {a : Option Nat} (ha : ∀ n ∈ a, n < Text.wordBound) :
      (Json.ofOption .nat a).Integral :=
    Json.integral_ofOption fun n hn => Json.integral_nat (ha n hn)
  simp [Profile.toJson, Json.Integral, Json.IntegralMembers, htext, hswitch,
    hword h.timeoutSeconds, hword h.maxRetries, hword h.sessionLifetime, hword h.displayLimit]

theorem integral_credentials (k : Rest.Credentials) : k.toJson.Integral := by
  cases k <;> simp [Rest.Credentials.toJson, Json.Integral, Json.IntegralMembers]

theorem integral_toJson {c : Config} (h : c.Bounded) : c.toJson.Integral :=
  ⟨Connection.integral_toJson h.connection, integral_credentials c.credentials,
    Target.integral_toJson h.displayLimit, trivial⟩

theorem Profiles.integral_toJson {ps : Profiles} (h : ∀ p ∈ ps, p.2.Bounded) :
    ps.toJson.Integral := by
  refine ⟨?_, trivial⟩
  induction ps with
  | nil => trivial
  | cons p rest ih =>
    rw [List.forall_mem_cons] at h
    exact ⟨Profile.integral_toJson h.1, ih h.2⟩

theorem inSeconds_of_whole {c : Config} {n : Nat} (h : c.connection.timeout = .ofSeconds n) :
    c.inSeconds = c := by
  have hwhole : (Duration.ofSeconds n).wholeSeconds = n :=
    Nat.mul_div_cancel n (by decide)
  rw [inSeconds, h, hwhole, ← h]

/-- A configuration is read as it was exactly if its time limit is a number of whole seconds. -/
theorem recovers_toJson_iff {c : Config} (h : c.Bounded) :
    read.Recovers c.toJson c ↔ ∃ n, c.connection.timeout = .ofSeconds n := by
  have hread := read_document h (by decide : 2 < Json.fullRoom)
  constructor
  · rintro ⟨hdocument, _⟩
    have hsame : c.inSeconds = c := Option.some.inj (hread.symm.trans hdocument)
    exact ⟨_, congrArg (fun d : Config => d.connection.timeout) hsame.symm⟩
  · rintro ⟨n, hn⟩
    rw [inSeconds_of_whole hn] at hread
    exact Reader.recovers_of_document (integral_toJson h) hread

/-- What is stored is read as it was: every configuration with a time limit of whole seconds, every
part that the form may be about, and every file of profiles in the order of their names. -/
theorem recovers_stored :
    (∀ c : Config, c.Bounded → (∃ n, c.connection.timeout = .ofSeconds n) →
      read.Recovers c.toJson c) ∧
    (∀ t : Target, t.displayLimit < Text.wordBound → Read.target.Recovers t.toJson t) ∧
    (∀ ps : Profiles, ps.InOrder → (∀ p ∈ ps, p.2.Bounded) →
      Read.profiles.Recovers ps.toJson ps) := by
  refine ⟨fun c hc hwhole => ?_, fun t ht => ?_, fun ps horder hps => ?_⟩
  · exact (recovers_toJson_iff hc).2 hwhole
  · exact Reader.recovers_of_document (Target.integral_toJson ht) (target_document ht (by decide))
  · exact Reader.recovers_of_document (Profiles.integral_toJson hps)
      (profiles_document horder hps (by decide))

/-- A configuration with an account, whose password needs escapes in a text. -/
def accountConfig : Config where
  connection := ⟨"https://splunk:8089", true, .ofSeconds 45, 5, 60, 7200⟩
  credentials := .login "admin" "a\"b\\c\n\u0001"
  target := ⟨"Splunk_SA_CIM", "nobody", "cam_queue", "accelerate_datamodel", 70⟩

def tokenConfig : Config := { accountConfig with credentials := .token "t" }

/-- A profile with every setting, and one with none. -/
def twoProfiles : Profiles := [
  ("full", ⟨some "https://splunk:8089", some "admin", some "pw", some "t", some false, some 45,
    some 0, some 7200, some "app", some "owner", some "realm", some 18446744073709551615⟩),
  ("none", {})]

theorem recovers_samples :
    read.Recovers accountConfig.toJson accountConfig ∧
    read.Recovers tokenConfig.toJson tokenConfig ∧
    Read.target.Recovers Target.standard.toJson Target.standard ∧
    Read.profiles.Recovers twoProfiles.toJson twoProfiles := by
  obtain ⟨hconfig, htarget, hprofiles⟩ := recovers_stored
  have hbounded : accountConfig.connection.Bounded :=
    ⟨by decide, by decide, by decide, by decide⟩
  refine ⟨hconfig _ ⟨hbounded, by decide⟩ ⟨45, rfl⟩, hconfig _ ⟨hbounded, by decide⟩ ⟨45, rfl⟩,
    htarget _ (by decide), hprofiles _ (by unfold Profiles.InOrder; decide) ?_⟩
  rw [twoProfiles, List.forall_mem_cons, List.forall_mem_singleton]
  exact ⟨⟨by decide, by decide, by decide, by decide⟩,
    ⟨by decide, by decide, by decide, by decide⟩⟩

end Config

end AccelForm
