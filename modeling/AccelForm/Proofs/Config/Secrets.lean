import AccelForm.Proofs.Config.Build
import AccelForm.Proofs.Rest.Secrets
import AccelForm.Proofs.Text.Trim
/-
  Configurations that differ in secrets only

  A password or a token comes from a profile, from the environment or from the
  command line. Where two sources differ in such secrets only, so do the
  layers that are read from them and what is put together of these; whether a
  configuration can be put together, and what is wrong if it cannot, does not
  depend on the secrets.
-/

namespace AccelForm

open Rest (IsShowable Swapped)

/-! ## Secrets that may be missing -/

theorem isSome_eq_of_rel {α : Type} {R : α → α → Prop} {x x' : Option α} (h : Option.Rel R x x') :
    x'.isSome = x.isSome := by
  cases h <;> rfl

theorem rel_or {α : Type} {R : α → α → Prop} {x x' y y' : Option α} (hx : Option.Rel R x x')
    (hy : Option.Rel R y y') : Option.Rel R (x.or y) (x'.or y') := by
  cases hx with
  | some h => exact .some h
  | none => exact hy

/-- A secret takes its own place. -/
theorem rel_same (x : Option String) : Option.Rel Swapped x x := by
  cases x with
  | none => exact .none
  | some s => exact .some (.inl rfl)

/-- A secret can be shown without the blanks around it. -/
theorem Rest.IsShowable.trim {s : String} (h : IsShowable s) :
    Text.trim s ≠ "" ∧ IsShowable (Text.trim s) := by
  obtain ⟨hblank, hheader⟩ := h
  have hkept : Text.trimChars s.toList ≠ [] := by
    intro hnil
    rw [Text.trimChars_eq_nil_iff] at hnil
    rw [Text.isBlankText, hnil] at hblank
    cases hblank
  refine ⟨fun hempty => hkept ?_, ?_, ?_⟩
  · have hchars := congrArg String.toList hempty
    rwa [Text.trim, String.toList_ofList] at hchars
  · rw [Text.isBlankText, Text.trim, String.toList_ofList]
    refine Bool.eq_false_iff.2 fun hall => hkept ?_
    rw [← Text.trimChars_trimChars]
    exact (Text.trimChars_eq_nil_iff _).2 hall
  · unfold Rest.isHeaderText at hheader ⊢
    rw [Text.trim, String.toList_ofList, List.all_eq_true]
    rw [List.all_eq_true] at hheader
    exact fun c hc => hheader c ((Text.trimChars_sublist _).subset hc)

theorem rel_trim {x x' : Option String} (h : Option.Rel Swapped x x') :
    Option.Rel Swapped ((x.map Text.trim).filter (· ≠ ""))
      ((x'.map Text.trim).filter (· ≠ "")) := by
  cases h with
  | none => exact .none
  | @some s s' h =>
    rw [Option.map_some, Option.map_some]
    rcases h with rfl | ⟨hs, hs'⟩
    · exact rel_same _
    · rw [Option.filter_some_pos (by simpa using hs.trim.1),
        Option.filter_some_pos (by simpa using hs'.trim.1)]
      exact .some (.inr ⟨hs.trim.2, hs'.trim.2⟩)

namespace Config

/-! ## Sources -/

def secretNames : List String := ["SPLUNK_PASSWORD", "SPLUNK_API_TOKEN", "CIM_SETUP_API_KEY"]

/-- Whether two environments differ in the secrets only. -/
structure Environment.Swapped (e e' : Environment) : Prop where
  rest : ∀ name, name ∉ secretNames → e'.raw? name = e.raw? name
  secret : ∀ name, name ∈ secretNames → Option.Rel Rest.Swapped (e.raw? name) (e'.raw? name)

def Profile.withoutSecrets (p : Profile) : Profile := { p with password := none, apiToken := none }

/-- Whether two profiles differ in the secrets only. -/
structure Profile.Swapped (p p' : Profile) : Prop where
  rest : p'.withoutSecrets = p.withoutSecrets
  password : Option.Rel Rest.Swapped p.password p'.password
  apiToken : Option.Rel Rest.Swapped p.apiToken p'.apiToken

theorem Profile.Swapped.refl (p : Profile) : p.Swapped p := ⟨rfl, rel_same _, rel_same _⟩

def Profiles.Swapped (ps ps' : Profiles) : Prop :=
  List.Forall₂ (fun q q' => q'.1 = q.1 ∧ Profile.Swapped q.2 q'.2) ps ps'

theorem Profiles.Swapped.refl (ps : Profiles) : ps.Swapped ps :=
  List.forall₂_same.2 fun q _ => ⟨rfl, .refl q.2⟩

/-- Whether two configuration files differ in the secrets only. -/
inductive FileSwapped : FileNode → FileNode → Prop
  | same (node : FileNode) : FileSwapped node node
  | file {contents contents' : String}
      (h : Option.Rel Profiles.Swapped (Read.profiles.run contents) (Read.profiles.run contents')) :
      FileSwapped (.file contents) (.file contents')

theorem FileSwapped.isThere_eq {node node' : FileNode} (h : FileSwapped node node') :
    node'.isThere = node.isThere := by
  cases h <;> rfl

def Layer.withoutSecrets (l : Layer) : Layer := { l with password := none, apiToken := none }

structure Layer.Swapped (l l' : Layer) : Prop where
  rest : l'.withoutSecrets = l.withoutSecrets
  password : Option.Rel Rest.Swapped l.password l'.password
  apiToken : Option.Rel Rest.Swapped l.apiToken l'.apiToken

namespace Environment.Swapped
variable {e e' : Environment} (h : e.Swapped e') {name : String}

include h

theorem value?_eq (hname : name ∉ secretNames) : e'.value? name = e.value? name := by
  unfold Environment.value?
  rw [h.rest name hname]

theorem value?_rel (hname : name ∈ secretNames) :
    Option.Rel Rest.Swapped (e.value? name) (e'.value? name) :=
  rel_trim (h.secret name hname)

end Environment.Swapped

/-! ## Layers -/

namespace Layer

theorem swapped_ofProfile {p p' : Profile} (h : p.Swapped p') :
    (ofProfile p).Swapped (ofProfile p') where
  rest := congrArg ofProfile h.rest
  password := h.password
  apiToken := h.apiToken

theorem Swapped.above {l l' m m' : Layer} (h : l.Swapped l') (hm : m.Swapped m') :
    (l.above m).Swapped (l'.above m') where
  rest := congrArg₂ Layer.above h.rest hm.rest
  password := rel_or h.password hm.password
  apiToken := rel_or h.apiToken hm.apiToken

variable {l l' : Layer}

/-- What does not depend on the secrets is the same. -/
theorem Swapped.congr {α : Type} (h : l.Swapped l') (f : Layer → α)
    (hf : ∀ l, f l.withoutSecrets = f l) : f l' = f l := by
  rw [← hf l', ← hf l, h.rest]

theorem Swapped.isComplete_eq (h : l.Swapped l') : l'.isComplete = l.isComplete := by
  have hbase : l'.baseUrl = l.baseUrl := h.congr Layer.baseUrl fun _ => rfl
  have husername : l'.username = l.username := h.congr Layer.username fun _ => rfl
  unfold isComplete
  rw [hbase, husername, isSome_eq_of_rel h.password, isSome_eq_of_rel h.apiToken]

theorem Swapped.credentials? (h : l.Swapped l') :
    Option.Rel Rest.Credentials.Swapped (Loader.credentials? l) (Loader.credentials? l') := by
  have husername : l'.username = l.username := h.congr Layer.username fun _ => rfl
  have htoken := h.apiToken
  have hpassword := h.password
  unfold Loader.credentials?
  rw [husername]
  generalize l.apiToken = token, l'.apiToken = token' at htoken
  generalize l.password = password, l'.password = password' at hpassword
  cases htoken with
  | some htoken => exact .some (.token htoken)
  | none =>
    cases l.username with
    | none => exact .none
    | some username =>
      cases hpassword with
      | none => exact .none
      | some _ => exact .some .login

theorem parsed?_eq {α : Type} {e e' : Environment} (h : e.Swapped e') {name : String}
    (hname : name ∉ secretNames) (expected : String) (read? : String → Option α) :
    parsed? e' name expected read? = parsed? e name expected read? := by
  unfold parsed?
  rw [h.value?_eq hname]

theorem results_ofEnvironment {e e' : Environment} (h : e.Swapped e') :
    Results Swapped (ofEnvironment e) (ofEnvironment e') := by
  have hbase : e'.value? "SPLUNK_BASE_URL" = e.value? "SPLUNK_BASE_URL" := h.value?_eq (by decide)
  have husername : e'.value? "SPLUNK_USERNAME" = e.value? "SPLUNK_USERNAME" :=
    h.value?_eq (by decide)
  have happ : e'.value? "CIM_SETUP_APP" = e.value? "CIM_SETUP_APP" := h.value?_eq (by decide)
  have howner : e'.value? "CIM_SETUP_OWNER" = e.value? "CIM_SETUP_OWNER" := h.value?_eq (by decide)
  have hrealm : e'.value? "CIM_SETUP_REALM" = e.value? "CIM_SETUP_REALM" := h.value?_eq (by decide)
  unfold ofEnvironment
  rw [parsed?_eq h (by decide), parsed?_eq h (by decide), parsed?_eq h (by decide),
    parsed?_eq h (by decide), parsed?_eq h (by decide), hbase, husername, happ, howner, hrealm]
  refine Results.bindSame _ fun skipVerify => Results.bindSame _ fun timeout =>
    Results.bindSame _ fun maxRetries => Results.bindSame _ fun sessionLifetime =>
      Results.bindSame _ fun displayLimit => .ok ⟨rfl, ?_, ?_⟩
  · exact h.value?_rel (by decide)
  · exact h.value?_rel (by decide)

end Layer

/-! ## Loaders -/

/-- Whether two loaders differ in the secrets only, as far as what they have read goes. -/
structure Loader.Swapped (l l' : Loader) : Prop where
  environment : l.surroundings.environment.Swapped l'.surroundings.environment
  layer : l.layer.Swapped l'.layer
  missingProfile : l'.missingProfile = l.missingProfile

end Config

/-- Whether two configurations differ in the secrets only. -/
structure Config.Swapped (c c' : Config) : Prop where
  connection : c'.connection = c.connection
  credentials : c.credentials.Swapped c'.credentials
  target : c'.target = c.target

namespace Config.Loader
variable {l l' : Loader}

theorem Swapped.lay (h : l.Swapped l') {m m' : Layer} (hm : m.Swapped m') :
    (l.lay m).Swapped (l'.lay m') where
  environment := h.environment
  layer := hm.above h.layer
  missingProfile := h.missingProfile

theorem results_loadEnvironment (h : l.Swapped l') :
    Results Swapped l.loadEnvironment l'.loadEnvironment :=
  (Layer.results_ofEnvironment h.environment).map fun _ _ hm => h.lay hm

theorem rel_lookup {ps ps' : Profiles} (h : ps.Swapped ps') (name : String) :
    Option.Rel Profile.Swapped (ps.lookup name) (ps'.lookup name) := by
  induction h with
  | nil => exact .none
  | @cons q q' ps ps' hq _ ih =>
    obtain ⟨key, profile⟩ := q
    obtain ⟨key', profile'⟩ := q'
    obtain ⟨hkey, hprofile⟩ := hq
    dsimp only at hkey
    rw [hkey, List.lookup_cons, List.lookup_cons]
    split
    · exact .some hprofile
    · exact ih

theorem results_readProfiles (path : String) {node node' : FileNode} (h : FileSwapped node node') :
    Results Profiles.Swapped (readProfiles path node) (readProfiles path node') := by
  cases h with
  | same =>
    cases readProfiles path node with
    | error e => exact .error e
    | ok ps => exact .ok (.refl ps)
  | @file contents contents' h =>
    unfold readProfiles FileNode.read
    dsimp only
    generalize Read.profiles.run contents = x, Read.profiles.run contents' = x' at h ⊢
    cases h with
    | none => exact .error _
    | some h => exact .ok h

/-- The profile of a file is there, or missing, whatever the secrets. -/
theorem results_loadProfile (h : l.Swapped l') (hname : l'.profileName = l.profileName)
    (hpath : l'.filePath = l.filePath)
    (hfile : FileSwapped (l.surroundings.files l.filePath) (l'.surroundings.files l.filePath)) :
    Results Swapped l.loadProfile l'.loadProfile := by
  unfold loadProfile
  rw [hname, hpath]
  cases l.profileName with
  | none => exact .ok h
  | some name =>
    dsimp only
    rw [hfile.isThere_eq]
    split
    · exact .ok { h with missingProfile := rfl }
    · refine (results_readProfiles _ hfile).map fun ps ps' hps => ?_
      have hprofile := rel_lookup hps name
      generalize ps.lookup name = x, ps'.lookup name = x' at hprofile ⊢
      cases hprofile with
      | none => exact { h with missingProfile := rfl }
      | some hprofile => exact h.lay (Layer.swapped_ofProfile hprofile)

theorem results_assembled {m m' : Layer} (hm : m.Swapped m') (base : String)
    {credentials credentials' : Rest.Credentials} (h : credentials.Swapped credentials') :
    Results Config.Swapped (assembled m base credentials) (assembled m' base credentials') := by
  have hconnection : connection m' base = connection m base :=
    hm.congr (connection · base) fun _ => rfl
  have htarget : target m' = target m := hm.congr target fun _ => rfl
  unfold assembled
  rw [hconnection, htarget]
  refine Results.bindSame _ fun _ => ?_
  cases checked (targetProblem? (target m)) with
  | error e => exact .error e
  | ok _ => exact .ok ⟨rfl, h, rfl⟩

/-- A configuration can be put together, or has the same problem, whatever the secrets. -/
theorem results_build (h : l.Swapped l') : Results Config.Swapped l.build l'.build := by
  have hbase : l'.layer.baseUrl = l.layer.baseUrl := h.layer.congr Layer.baseUrl fun _ => rfl
  have hprofile : l'.profileProblem? = l.profileProblem? := by
    unfold profileProblem?
    rw [h.layer.isComplete_eq, h.missingProfile]
  rw [build_eq, build_eq, hprofile, hbase]
  refine Results.bindSame _ fun _ => Results.bindSame _ fun base => ?_
  have hcredentials := h.layer.credentials?
  generalize credentials? l.layer = x, credentials? l'.layer = x' at hcredentials ⊢
  cases hcredentials with
  | none => exact .error _
  | some hcredentials => exact results_assembled h.layer base hcredentials

end Config.Loader

end AccelForm
