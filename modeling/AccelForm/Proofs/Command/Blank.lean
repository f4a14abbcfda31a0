import AccelForm.Command.Setup
import AccelForm.Proofs.Config.Build
import Mathlib.Control.Monad.Basic
/-
  Blank variables

  The settings that a variable gives as text are read twice: by the settings of
  the environment, where a blank text counts as none, and by the option of the
  same name, which takes the text as it is if it is not given. So a variable
  that is blank is one that is not set only where its option is given. Where it
  is not, the blank text counts as given there, on top of everything else
  (`config_of_blank`), and hides what a profile says (`blank_hides_profile`).
-/

namespace AccelForm

/-- The settings that both an option and the environment give as text, under one variable. -/
inductive TextSetting where
  | baseUrl
  | username
  | password
  | apiToken
  | app
  | realm
  deriving DecidableEq, Repr

namespace TextSetting

def variableName : TextSetting → String
  | baseUrl => "SPLUNK_BASE_URL"
  | username => "SPLUNK_USERNAME"
  | password => "SPLUNK_PASSWORD"
  | apiToken => "SPLUNK_API_TOKEN"
  | app => "CIM_SETUP_APP"
  | realm => "CIM_SETUP_REALM"

def option : TextSetting → String
  | baseUrl => "base-url"
  | username => "username"
  | password => "password"
  | apiToken => "api-token"
  | app => "app"
  | realm => "realm"

def given (x : TextSetting) (a : Arguments) : Option String :=
  match x with
  | baseUrl => a.baseUrl
  | username => a.username
  | password => a.password
  | apiToken => a.apiToken
  | app => a.app
  | realm => a.realm

def put (x : TextSetting) (value : Option String) (a : Arguments) : Arguments :=
  match x with
  | baseUrl => { a with baseUrl := value }
  | username => { a with username := value }
  | password => { a with password := value }
  | apiToken => { a with apiToken := value }
  | app => { a with app := value }
  | realm => { a with realm := value }

/-- The arguments with a text for the setting, unless they give it themselves. -/
def fill (x : TextSetting) (text : String) (a : Arguments) : Arguments :=
  x.put ((x.given a).or (some text)) a

theorem put_given (x : TextSetting) (a : Arguments) : x.put (x.given a) a = a := by
  cases x <;> rfl

theorem fill_of_given {x : TextSetting} {a : Arguments} (h : (x.given a).isSome = true)
    (text : String) : x.fill text a = a := by
  rw [fill, Option.or_of_isSome h, put_given]

/-- Everywhere on a command line the option of a setting, and no other one, has its variable, and
the option takes any text. -/
theorem choices_of_variable (x : TextSetting) (p : Arguments.Place) :
    (∃ c ∈ p.choices, c.long = x.option) ∧ ∀ c ∈ p.choices,
      (c.envName = some x.variableName ↔ c.long = x.option) ∧
      (c.long = x.option → c.taking = .text) := by
  cases x <;> cases p <;> decide

theorem option_not_mem_required (x : TextSetting) (p : Arguments.Place) :
    x.option ∉ p.required := by
  cases x <;> cases p <;> decide

end TextSetting

/-! ## One variable more -/

namespace Config.Environment
variable {e : Environment} {name other text : String}

theorem raw?_set (e : Environment) (name text : String) : (e.set name text).raw? name = some text :=
  List.lookup_cons_self

theorem raw?_set_of_ne (h : other ≠ name) : (e.set name text).raw? other = e.raw? other := by
  show List.lookup other ((name, text) :: e.bindings) = _
  rw [List.lookup_cons, beq_false_of_ne h]
  rfl

theorem trim_of_isBlankText (h : Text.isBlankText text = true) : Text.trim text = "" := by
  rw [Text.trim, (Text.trimChars_eq_nil_iff _).2 h]

/-- No value of an environment changes where a variable that is not set becomes blank. -/
theorem value?_set_of_blank (hunset : e.raw? name = none) (hblank : Text.isBlankText text = true) :
    (e.set name text).value? other = e.value? other := by
  unfold value?
  by_cases h : other = name
  · rw [h, raw?_set, hunset, Option.map_some, trim_of_isBlankText hblank, Option.map_none]
    rfl
  · rw [raw?_set_of_ne h]

end Config.Environment

/-! ## Options that take their variables -/

namespace Arguments
open Config Config.Environment

/-- The values of options that variables give before and after the variable of one option is set. -/
structure Filled (option text : String) (before after : List (String × String)) : Prop where
  rest : ∀ name, name ≠ option → after.lookup name = before.lookup name
  unset : before.lookup option = none
  set : after.lookup option = none ∨ after.lookup option = some text

namespace Filled
variable {option text : String} {before after before' after' : List (String × String)}

theorem nil : Filled option text [] [] := ⟨fun _ _ => rfl, rfl, .inl rfl⟩

theorem append (h : Filled option text before after) (h' : Filled option text before' after') :
    Filled option text (before ++ before') (after ++ after') where
  rest name hname := by
    rw [List.lookup_append, List.lookup_append, h.rest name hname, h'.rest name hname]
  unset := by
    rw [List.lookup_append, h.unset, h'.unset]
    rfl
  set := by
    rw [List.lookup_append]
    rcases h.set with hset | hset
    · rw [hset]
      exact h'.set
    · exact .inr (by rw [hset]; rfl)

/-- One more option, of another name, takes its variable. -/
theorem cons (h : Filled option text before after) {name : String} (hname : name ≠ option)
    (value : String) : Filled option text ((name, value) :: before) ((name, value) :: after) := by
  have hone : Filled option text [(name, value)] [(name, value)] := by
    have hnone : [(name, value)].lookup option = none := by
      rw [List.lookup_cons, beq_false_of_ne hname.symm]
      rfl
    exact ⟨fun _ _ => rfl, hnone, .inl hnone⟩
  exact hone.append h

/-- The option itself takes its variable. -/
theorem cons_option (h : Filled option text before after) :
    Filled option text before ((option, text) :: after) where
  rest name hname := by
    rw [List.lookup_cons, beq_false_of_ne hname]
    exact h.rest name hname
  unset := h.unset
  set := .inr List.lookup_cons_self

end Filled

section Reading
variable {e : Environment} {x : TextSetting} {text : String}

theorem fromVariables_of_none {g : Given} {c : Choice} {cs : List Choice}
    (h : c.envName.bind e.raw? = none) : fromVariables e g (c :: cs) = fromVariables e g cs := by
  rw [fromVariables, h]

theorem fromVariables_of_given {g : Given} {c : Choice} {cs : List Choice}
    (h : (g.values.lookup c.long).isSome = true) :
    fromVariables e g (c :: cs) = fromVariables e g cs := by
  rw [fromVariables]
  split
  · rw [if_pos h]
  · rfl

theorem fromVariables_of_some {g : Given} {c : Choice} {cs : List Choice} {value : String}
    (hvalue : c.envName.bind e.raw? = some value)
    (h : ¬ (g.values.lookup c.long).isSome = true) :
    fromVariables e g (c :: cs) = (checkValue c value).bind fun _ =>
      (fromVariables e g cs).map ((c.long, value) :: ·) := by
  rw [fromVariables, hvalue]
  dsimp only
  rw [if_neg h]
  cases checkValue c value with
  | error e => rfl
  | ok _ => cases fromVariables e g cs <;> rfl

/-- At a place where the option of a setting is not given it takes its variable, and nothing else
changes. -/
theorem fromVariables_set (text : String) (hunset : e.raw? x.variableName = none) {g : Given}
    {cs : List Choice}
    (hcs : ∀ c ∈ cs, (c.envName = some x.variableName ↔ c.long = x.option) ∧
      (c.long = x.option → c.taking = .text))
    {before : List (String × String)} (h : fromVariables e g cs = .ok before) :
    ∃ after, fromVariables (e.set x.variableName text) g cs = .ok after ∧
      Filled x.option text before after ∧
      ((∃ c ∈ cs, c.long = x.option) → g.values.lookup x.option = none →
        after.lookup x.option = some text) := by
  induction cs generalizing before with
  | nil =>
    cases h
    exact ⟨[], rfl, .nil, fun ⟨c, hc, _⟩ => nomatch hc⟩
  | cons c cs ih =>
    obtain ⟨hname, htaking⟩ := hcs c (List.mem_cons_self ..)
    have ih := fun {before} => @ih (fun c hc => hcs c (List.mem_cons_of_mem _ hc)) before
    by_cases hlong : c.long = x.option
    · have henv : c.envName = some x.variableName := hname.2 hlong
      have hbefore : c.envName.bind e.raw? = none := by rw [henv, Option.bind_some, hunset]
      have hafter : c.envName.bind (e.set x.variableName text).raw? = some text := by
        rw [henv, Option.bind_some, raw?_set]
      rw [fromVariables_of_none hbefore] at h
      obtain ⟨after, hread, hfilled, _⟩ := ih h
      by_cases hgiven : (g.values.lookup c.long).isSome = true
      · refine ⟨after, by rw [fromVariables_of_given hgiven, hread], hfilled, fun _ hnone => ?_⟩
        rw [hlong, hnone] at hgiven
        cases hgiven
      · have hcheck : checkValue c text = .ok () := by rw [checkValue, htaking hlong]
        refine ⟨(x.option, text) :: after, ?_, hfilled.cons_option,
          fun _ _ => List.lookup_cons_self⟩
        rw [fromVariables_of_some hafter hgiven, hcheck, hread, hlong]
        rfl
    · have henv : c.envName ≠ some x.variableName := mt hname.1 hlong
      have hsame : c.envName.bind (e.set x.variableName text).raw? = c.envName.bind e.raw? := by
        cases hc : c.envName with
        | none => rfl
        | some name =>
          refine raw?_set_of_ne fun heq => henv ?_
          rw [hc, heq]
      have hother : (∃ d ∈ c :: cs, d.long = x.option) → ∃ d ∈ cs, d.long = x.option := by
        rintro ⟨d, hd, hdlong⟩
        rcases List.mem_cons.1 hd with rfl | hd
        · exact absurd hdlong hlong
        · exact ⟨d, hd, hdlong⟩
      cases hvalue : c.envName.bind e.raw? with
      | none =>
        rw [fromVariables_of_none hvalue] at h
        obtain ⟨after, hread, hfilled, hset⟩ := ih h
        exact ⟨after, by rw [fromVariables_of_none (hsame.trans hvalue), hread], hfilled,
          fun hex => hset (hother hex)⟩
      | some value =>
        by_cases hgiven : (g.values.lookup c.long).isSome = true
        · rw [fromVariables_of_given hgiven] at h
          obtain ⟨after, hread, hfilled, hset⟩ := ih h
          exact ⟨after, by rw [fromVariables_of_given hgiven, hread], hfilled,
            fun hex => hset (hother hex)⟩
        · rw [fromVariables_of_some hvalue hgiven] at h
          obtain ⟨_, hcheck, h⟩ := Loader.of_bind_eq_ok h
          obtain ⟨before', hbefore, rfl⟩ := Loader.of_map_eq_ok h
          obtain ⟨after, hread, hfilled, hset⟩ := ih hbefore
          refine ⟨(c.long, value) :: after, ?_, hfilled.cons hlong value, fun hex hnone => ?_⟩
          · rw [fromVariables_of_some (hsame.trans hvalue) hgiven, hcheck, hread]
            rfl
          · rw [List.lookup_cons, beq_false_of_ne (Ne.symm hlong)]
            exact hset (hother hex) hnone

/-- The fault of a place of the command line at which the given options take their variables. -/
def placeFault? (g : Given) (isLast : Bool) (filled : List (String × String)) :
    Option UsageError :=
  if isLast && !g.place.commands.isEmpty then
    if g.values.isEmpty && filled.isEmpty then some .nothingGiven else some .missingCommand
  else if g.place.required.any fun name => ((g.values ++ filled).lookup name).isNone then
    some .missingArgument
  else none

theorem checkPlace_eq (isLast : Bool) (unsettled : Given) : checkPlace e isLast unsettled =
    unsettled.settleHeld.bind fun g => (fromVariables e g g.place.choices).bind fun filled =>
      (placeFault? g isLast filled).elim (.ok (g.values, filled)) .error := by
  unfold checkPlace
  refine congrArg _ (funext fun g => congrArg _ (funext fun filled => ?_))
  unfold placeFault?
  cases isLast && !g.place.commands.isEmpty with
  | true => cases g.values.isEmpty && filled.isEmpty <;> rfl
  | false =>
    cases g.place.required.any fun name => ((g.values ++ filled).lookup name).isNone <;> rfl

theorem placeFault?_of_filled {g : Given} {isLast : Bool} {before after : List (String × String)}
    (hfilled : Filled x.option text before after) (h : placeFault? g isLast before = none) :
    placeFault? g isLast after = none := by
  unfold placeFault? at h ⊢
  split at h
  · split at h <;> cases h
  next hlast =>
    rw [if_neg hlast]
    split at h
    · cases h
    next hbefore =>
      rw [Bool.not_eq_true, List.any_eq_false] at hbefore
      refine if_neg ?_
      rw [Bool.not_eq_true, List.any_eq_false]
      intro name hname
      have hne : name ≠ x.option := by
        rintro rfl
        exact x.option_not_mem_required _ hname
      rw [List.lookup_append, hfilled.rest name hne, ← List.lookup_append]
      exact hbefore name hname

/-- A place of the command line is read as before, and its option takes the variable if it is not
given there. -/
theorem checkPlace_set (text : String) (hunset : e.raw? x.variableName = none) {isLast : Bool}
    {unsettled : Given}
    {values before : List (String × String)}
    (h : checkPlace e isLast unsettled = .ok (values, before)) :
    ∃ after, checkPlace (e.set x.variableName text) isLast unsettled = .ok (values, after) ∧
      Filled x.option text before after ∧
      (values.lookup x.option = none → after.lookup x.option = some text) := by
  rw [checkPlace_eq] at h
  obtain ⟨g, hg, h⟩ := Loader.of_bind_eq_ok h
  obtain ⟨filled, hfilled, h⟩ := Loader.of_bind_eq_ok h
  cases hfault : placeFault? g isLast filled with
  | some fault =>
    rw [hfault] at h
    cases h
  | none =>
    rw [hfault] at h
    cases h
    obtain ⟨hexists, hcs⟩ := x.choices_of_variable g.place
    obtain ⟨after, hread, hset, hown⟩ := fromVariables_set text hunset hcs hfilled
    refine ⟨after, ?_, hset, hown hexists⟩
    rw [checkPlace_eq, hg]
    show (fromVariables _ g g.place.choices).bind _ = _
    rw [hread]
    show (placeFault? g isLast after).elim _ _ = _
    rw [placeFault?_of_filled hset hfault]
    rfl

theorem settle_cons (isLast : Bool) (g : Given) (outer : List Given) :
    settle e isLast (g :: outer) = (checkPlace e isLast g).bind fun p =>
      (settle e false outer).map fun q => (p.1 ++ q.1, p.2 ++ q.2) := by
  rw [settle]
  refine congrArg _ (funext fun p => ?_)
  cases settle e false outer <;> rfl

/-- All places are read as before, and the option takes the variable if it is given at none. -/
theorem settle_set (text : String) (hunset : e.raw? x.variableName = none) {isLast : Bool}
    {gs : List Given}
    {values before : List (String × String)} (h : settle e isLast gs = .ok (values, before)) :
    ∃ after, settle (e.set x.variableName text) isLast gs = .ok (values, after) ∧
      Filled x.option text before after ∧
      (gs ≠ [] → values.lookup x.option = none → after.lookup x.option = some text) := by
  induction gs generalizing isLast values before with
  | nil =>
    cases h
    exact ⟨[], rfl, .nil, fun hne => absurd rfl hne⟩
  | cons g outer ih =>
    rw [settle_cons] at h
    obtain ⟨⟨own, own'⟩, hown, h⟩ := Loader.of_bind_eq_ok h
    obtain ⟨⟨rest, rest'⟩, hrest, heq⟩ := Loader.of_map_eq_ok h
    cases heq
    obtain ⟨after, hread, hfilled, hset⟩ := checkPlace_set text hunset hown
    obtain ⟨others, hreadRest, hfilledRest, _⟩ := ih hrest
    refine ⟨after ++ others, ?_, hfilled.append hfilledRest, fun _ hnone => ?_⟩
    · rw [settle_cons, hread]
      show (settle _ false outer).map _ = _
      rw [hreadRest]
      rfl
    · rw [List.lookup_append, Option.or_eq_none_iff] at hnone
      rw [List.lookup_append, hset hnone.1]
      rfl

theorem read_eq (arguments : List String) : read e arguments =
    (Reading.start.readAll arguments).bind fun r =>
      (settle e true (r.current :: r.outer)).bind fun p =>
        (commandAt ((p.1 ++ p.2).lookup ·) r.current.place).elim (.error .missingCommand)
          fun command => .ok (ofValues ((p.1 ++ p.2).lookup ·) command) := by
  unfold read
  refine congrArg _ (funext fun r => congrArg _ (funext fun p => ?_))
  dsimp only
  cases commandAt ((p.1 ++ p.2).lookup ·) r.current.place <;> rfl

section Values
variable {value? value?' : String → Option String}
  (hrest : ∀ name, name ≠ x.option → value?' name = value? name)

include hrest

theorem commandAt_congr (p : Place) : commandAt value?' p = commandAt value? p := by
  cases x <;> simp only [TextSetting.option] at hrest <;> cases p <;> simp [commandAt, hrest]

theorem ofValues_eq_fill (hset : value?' x.option = (value? x.option).or (some text))
    (command : Command) : ofValues value?' command = x.fill text (ofValues value? command) := by
  cases x <;>
    simp_all [ofValues, TextSetting.fill, TextSetting.put, TextSetting.given, TextSetting.option]

end Values

/-- A command line means the same with a variable more, except that its option takes the variable
if it is not given. -/
theorem read_set (hunset : e.raw? x.variableName = none) {arguments : List String} {a : Arguments}
    (h : read e arguments = .ok a) :
    read (e.set x.variableName text) arguments = .ok (x.fill text a) := by
  rw [read_eq] at h
  obtain ⟨r, hr, h⟩ := Loader.of_bind_eq_ok h
  obtain ⟨⟨given, before⟩, hsettle, h⟩ := Loader.of_bind_eq_ok h
  obtain ⟨after, hread, hfilled, hset⟩ := settle_set text hunset hsettle
  have hrest : ∀ name, name ≠ x.option →
      (given ++ after).lookup name = (given ++ before).lookup name := by
    intro name hname
    rw [List.lookup_append, List.lookup_append, hfilled.rest name hname]
  have hown : (given ++ after).lookup x.option =
      ((given ++ before).lookup x.option).or (some text) := by
    rw [List.lookup_append, List.lookup_append, hfilled.unset, Option.or_none]
    cases hgiven : given.lookup x.option with
    | some own => rfl
    | none => rw [Option.none_or, Option.none_or, hset (List.cons_ne_nil _ _) hgiven]
  rw [read_eq, hr]
  show (settle _ true _).bind _ = _
  rw [hread]
  show (commandAt ((given ++ after).lookup ·) _).elim _ _ = _
  rw [commandAt_congr hrest]
  cases hcommand : commandAt ((given ++ before).lookup ·) r.current.place with
  | none =>
    rw [hcommand] at h
    cases h
  | some command =>
    rw [hcommand] at h
    cases h
    exact congrArg Except.ok (ofValues_eq_fill hrest hown command)

end Reading

end Arguments

/-! ## Settings of an environment with a blank variable -/

namespace Config

def Surroundings.withVariable (s : Surroundings) (name text : String) : Surroundings :=
  { s with environment := s.environment.set name text }

def Loader.movedTo (l : Loader) (s : Surroundings) : Loader := { l with surroundings := s }

theorem Layer.ofEnvironment_congr {e e' : Environment}
    (h : ∀ name, e'.value? name = e.value? name) : ofEnvironment e' = ofEnvironment e := by
  unfold ofEnvironment parsed?
  simp only [h]

theorem Loader.surroundings_loadProfile {l l' : Loader} (h : l.loadProfile = .ok l') :
    l'.surroundings = l.surroundings := by
  unfold loadProfile at h
  split at h
  · cases h
    rfl
  · dsimp only at h
    split at h
    · cases h
      rfl
    · obtain ⟨ps, _, rfl⟩ := Loader.of_map_eq_ok h
      split <;> rfl

theorem Loader.loadProfile_movedTo {l : Loader} {s : Surroundings}
    (hfiles : s.files = l.surroundings.files) (hpath : (l.movedTo s).filePath = l.filePath) :
    (l.movedTo s).loadProfile = l.loadProfile.map (·.movedTo s) := by
  have hnode : (l.movedTo s).surroundings.files l.filePath = l.surroundings.files l.filePath :=
    congrFun hfiles _
  have hname : (l.movedTo s).profileName = l.profileName := rfl
  unfold loadProfile
  rw [hpath, hnode, hname]
  cases l.profileName with
  | none => rfl
  | some name =>
    dsimp only
    split
    · rfl
    · cases readProfiles l.filePath (l.surroundings.files l.filePath) with
      | error e => rfl
      | ok ps =>
        show Except.ok _ = Except.ok _
        cases hp : ps.lookup name <;> simp only [hp] <;> rfl

end Config

namespace Arguments
open Config
variable {s : Surroundings} {x : TextSetting} {text : String}

/-- A setting that is blank in the environment is one that is not there. -/
theorem config_withVariable (a : Arguments)
    (hunset : s.environment.raw? x.variableName = none) (hblank : Text.isBlankText text = true) :
    a.config (s.withVariable x.variableName text) = a.config s := by
  let s' := s.withVariable x.variableName text
  have hxdg : s'.environment.raw? "XDG_CONFIG_HOME" = s.environment.raw? "XDG_CONFIG_HOME" :=
    Environment.raw?_set_of_ne (by cases x <;> decide)
  have hhome : s'.environment.raw? "HOME" = s.environment.raw? "HOME" :=
    Environment.raw?_set_of_ne (by cases x <;> decide)
  have hpath : ((a.loader s).movedTo s').filePath = (a.loader s).filePath := by
    have hdirectory : configDirectory s' = configDirectory s := by
      unfold configDirectory
      rw [hxdg, hhome]
      rfl
    show a.givenPath.getD (joinPath (configDirectory s') filePlace) = _
    rw [hdirectory]
    rfl
  have hprofile : (a.loader s').loadProfile = (a.loader s).loadProfile.map (·.movedTo s') :=
    Loader.loadProfile_movedTo (l := a.loader s) rfl hpath
  have hsettings : Layer.ofEnvironment s'.environment = Layer.ofEnvironment s.environment :=
    Layer.ofEnvironment_congr fun _ => Environment.value?_set_of_blank hunset hblank
  show a.config s' = a.config s
  unfold config
  rw [hprofile]
  cases hl : (a.loader s).loadProfile with
  | error e => rfl
  | ok l =>
    have hl' : l.surroundings = s := Loader.surroundings_loadProfile hl
    unfold Loader.loadEnvironment
    simp only [Except.map, Except.mapError, bind, Except.bind]
    rw [hl', show (l.movedTo s').surroundings.environment = s'.environment from rfl, hsettings]
    cases Layer.ofEnvironment s.environment <;> rfl

/-- What a command line comes to: why it names no run, or else the configuration of its run, or why
there is none. -/
def configOf (s : Surroundings) (arguments : List String) :
    Except UsageError (Except Failure Config) :=
  (read s.environment arguments).map (·.config s)

/-- A variable that is blank instead of unset counts as its option given with the blank text. So the
configuration is the same where the option is given on the command line. -/
theorem config_of_blank (hunset : s.environment.raw? x.variableName = none)
    (hblank : Text.isBlankText text = true) {arguments : List String} {a : Arguments}
    (hread : read s.environment arguments = .ok a) :
    configOf (s.withVariable x.variableName text) arguments = .ok ((x.fill text a).config s) ∧
    ((x.given a).isSome = true →
      configOf (s.withVariable x.variableName text) arguments = configOf s arguments) := by
  have hafter : configOf (s.withVariable x.variableName text) arguments =
      .ok ((x.fill text a).config s) := by
    have hset : read (s.withVariable x.variableName text).environment arguments =
        .ok (x.fill text a) := read_set hunset hread
    rw [configOf, hset, ← config_withVariable _ hunset hblank]
    rfl
  refine ⟨hafter, fun hgiven => ?_⟩
  rw [hafter, TextSetting.fill_of_given hgiven, configOf, hread]
  rfl

/-- A file with a profile in which every setting that a variable can give as text is found. -/
def profiledSurroundings : Surroundings where
  environment := .empty
  accountHome := "/"
  files
    | "c.json" => .file ("\x7b\"profiles\":\x7b\"dev\":\x7b\"base_url\":\"http://h\"," ++
        "\"username\":\"u\",\"password\":\"p\",\"app\":\"A\",\"realm\":\"r\"\x7d\x7d\x7d")
    | _ => .absent

def profiledLine : List String := ["--profile", "dev", "--config-path", "c.json", "check"]

/-- The configuration that the profile describes. -/
def profiledConfig : Config where
  connection :=
    ⟨"http://h", false, .ofSeconds defaultTimeout, defaultRetries, defaultMargin, defaultLifetime⟩
  credentials := .login "u" "p"
  target := { Target.standard with app := "A", realm := "r" }

/-- A blank variable is of no account behind an option that is given. -/
theorem blank_behind_option :
    configOf (profiledSurroundings.withVariable "SPLUNK_BASE_URL" " ")
        ("--base-url" :: "http://g" :: profiledLine) =
      configOf profiledSurroundings ("--base-url" :: "http://g" :: profiledLine) := by
  have hread : read profiledSurroundings.environment ("--base-url" :: "http://g" :: profiledLine) =
      .ok (.ofValues ([("base-url", "http://g"), ("profile", "dev"),
        ("config-path", "c.json")].lookup ·) .check) := by
    decide +kernel
  exact (config_of_blank (x := .baseUrl) rfl (by decide) hread).2 (by decide)

/-- Each of the variables, when it is blank, hides what the profile says. -/
theorem blank_hides_profile :
    configOf profiledSurroundings profiledLine = .ok (.ok profiledConfig) ∧
    configOf (profiledSurroundings.withVariable "SPLUNK_BASE_URL" " ") profiledLine =
      .ok (.error (.config .build .missingBaseUrl)) ∧
    configOf (profiledSurroundings.withVariable "SPLUNK_API_TOKEN" " ") profiledLine =
      .ok (.ok { profiledConfig with credentials := .token " " }) ∧
    ∀ x : TextSetting, profiledSurroundings.environment.raw? x.variableName = none ∧
      Text.isBlankText " " = true ∧
      configOf (profiledSurroundings.withVariable x.variableName " ") profiledLine ≠
        configOf profiledSurroundings profiledLine := by
  have hprofile : configOf profiledSurroundings profiledLine = .ok (.ok profiledConfig) := by
    decide +kernel
  refine ⟨hprofile, by decide +kernel, by decide +kernel, fun x => ?_⟩
  rw [hprofile]
  cases x <;> decide +kernel

end Arguments

end AccelForm
