import AccelForm.Config.Environment
import AccelForm.Text.Numeral
/-
  Arguments of a run

  A run has a command and options. Most options can stand before or after the
  command; where one stands in both places, the later one counts. An option
  that is not given takes the value of its variable, if it has one and the
  variable is set. Every place of the command line is checked on its own, the
  last one first.
-/

namespace AccelForm

/-- What can be done with a stored key. -/
inductive KeyCommand where
  | save (name key : String)
  | retrieve (name : String)
  | delete (name : String)
  deriving DecidableEq, Repr

inductive Command where
  | check
  | display (model : Option String)
  | apply (file : String) (dryRun : Bool)
  | key (command : KeyCommand)
  deriving DecidableEq, Repr

structure Arguments where
  baseUrl : Option String
  username : Option String
  password : Option String
  apiToken : Option String
  timeout : Option Nat
  maxRetries : Option Nat
  skipVerify : Bool
  profile : Option String
  configPath : Option String
  app : Option String
  realm : Option String
  output : String
  outputFile : Option String
  logJson : Bool
  command : Command
  deriving DecidableEq, Repr

/-- Why arguments name no run. -/
inductive UsageError where
  | helpWanted
  | versionWanted
  | nothingGiven
  | missingCommand
  | missingArgument
  | unknownArgument
  | unknownCommand
  | missingValue
  | invalidValue
  | repeatedArgument
  | excessValue
  deriving DecidableEq, Repr

namespace Arguments

inductive Taking where
  | nothing
  | text
  | word
  | path
  | help
  | version
  deriving DecidableEq, Repr

structure Choice where
  long : String
  short : Option Char
  taking : Taking
  envName : Option String
  deriving DecidableEq, Repr

/-- The options that can stand anywhere. -/
def globalChoices : List Choice := [
  ⟨"base-url", some 'b', .text, some "SPLUNK_BASE_URL"⟩,
  ⟨"username", some 'u', .text, some "SPLUNK_USERNAME"⟩,
  ⟨"password", some 'p', .text, some "SPLUNK_PASSWORD"⟩,
  ⟨"api-token", some 'a', .text, some "SPLUNK_API_TOKEN"⟩,
  ⟨"timeout", none, .word, some "SPLUNK_TIMEOUT"⟩,
  ⟨"max-retries", none, .word, some "SPLUNK_MAX_RETRIES"⟩,
  ⟨"skip-verify", none, .nothing, none⟩,
  ⟨"profile", none, .text, some "SPLUNK_PROFILE"⟩,
  ⟨"config-path", none, .path, some "SPLUNK_CONFIG_PATH"⟩,
  ⟨"app", none, .text, some "CIM_SETUP_APP"⟩,
  ⟨"realm", none, .text, some "CIM_SETUP_REALM"⟩,
  ⟨"output", some 'o', .text, none⟩,
  ⟨"output-file", none, .path, none⟩,
  ⟨"log-json", none, .nothing, none⟩]

/-- The option that asks for help. -/
def helpChoice : Choice := ⟨"help", some 'h', .help, none⟩

/-- The option that asks for the version. -/
def versionChoice : Choice := ⟨"version", some 'V', .version, none⟩

/-- The option that names a key. -/
def nameChoice : Choice := ⟨"name", some 'n', .text, none⟩

/-- A place of the command line: before the command, or after one. -/
inductive Place where
  | top
  | check
  | display
  | apply
  | key
  | saveKey
  | retrieveKey
  | deleteKey
  deriving DecidableEq, Repr

namespace Place

def ownChoices : Place → List Choice
  | .top => [versionChoice]
  | .display => [⟨"model", some 'm', .text, none⟩]
  | .apply => [⟨"file", some 'f', .path, none⟩, ⟨"dry-run", none, .nothing, none⟩]
  | .saveKey => [nameChoice, ⟨"key", some 'k', .text, some "CIM_SETUP_API_KEY"⟩]
  | .retrieveKey | .deleteKey => [nameChoice]
  | .check | .key => []

def choices (p : Place) : List Choice := p.ownChoices ++ globalChoices ++ [helpChoice]

def required : Place → List String
  | .apply => ["file"]
  | .saveKey => ["name", "key"]
  | .retrieveKey | .deleteKey => ["name"]
  | _ => []

def commands : Place → List (String × Place)
  | .top => [("check", .check), ("show", .display), ("apply", .apply), ("api-key", .key)]
  | .key => [("save", .saveKey), ("show", .retrieveKey), ("delete", .deleteKey)]
  | _ => []

def helpWord : String := "help"

end Place

/-- An option that is not settled yet, with its value if that has come. -/
structure Held where
  choice : Choice
  value : Option String
  deriving DecidableEq, Repr

/-- What was given at a place. An option whose value is an argument of its own is held until
something else settles it. -/
structure Given where
  place : Place
  values : List (String × String)
  held : Option Held
  deriving DecidableEq, Repr

def checkValue (c : Choice) (value : String) : Except UsageError Unit :=
  match c.taking with
  | .word => if (Text.word? value).isSome then .ok () else .error .invalidValue
  | .path => if value = "" then .error .missingValue else .ok ()
  | _ => .ok ()

namespace Given

/-- Nothing given at a place yet. -/
def start (p : Place) : Given := ⟨p, [], none⟩

def give (g : Given) (c : Choice) (value : String) : Except UsageError Given := do
  if (g.values.lookup c.long).isSome then throw .repeatedArgument
  checkValue c value
  return { g with values := g.values ++ [(c.long, value)] }

def settleHeld (g : Given) : Except UsageError Given :=
  match g.held with
  | none => .ok g
  | some ⟨_, none⟩ => .error .missingValue
  | some ⟨c, some value⟩ => { g with held := none }.give c value

def awaiting? (g : Given) : Option Choice :=
  match g.held with
  | some ⟨c, none⟩ => some c
  | _ => none

def present : String := "true"

/-- Reads an option, with what is attached to it if anything is. -/
def choose (g : Given) (c : Choice) (attached : Option String) : Except UsageError Given :=
  match c.taking, attached with
  | .text, some value | .word, some value | .path, some value => do (← g.settleHeld).give c value
  | .text, none | .word, none | .path, none =>
    return { ← g.settleHeld with held := some ⟨c, none⟩ }
  | _, some _ => .error .excessValue
  | .nothing, none => do (← g.settleHeld).give c present
  | .help, none => do let _ ← g.settleHeld; .error .helpWanted
  | .version, none => do let _ ← g.settleHeld; .error .versionWanted

end Given

structure Reading where
  current : Given
  outer : List Given
  trailing : Bool

namespace Reading

def start : Reading := ⟨.start .top, [], false⟩

/-- Reads an option, with what is attached to it if anything is. -/
def choose (r : Reading) (c : Choice) (attached : Option String) : Except UsageError Reading :=
  (r.current.choose c attached).map fun g => { r with current := g }

/-- Reads an option that is written in full. -/
def chooseLong (r : Reading) (name : String) (attached : Option String) :
    Except UsageError Reading :=
  match r.current.place.choices.find? (·.long == name) with
  | some c => r.choose c attached
  | none => .error .unknownArgument

def attachedTo : List Char → Option String
  | [] => none
  | '=' :: value => some (String.ofList value)
  | value => some (String.ofList value)

def chooseShort (r : Reading) : List Char → Except UsageError Reading
  | [] => .ok r
  | letter :: rest =>
    match r.current.place.choices.find? (·.short == some letter) with
    | none => .error .unknownArgument
    | some c =>
      match c.taking with
      | .text | .word | .path => r.choose c (attachedTo rest)
      | _ => do chooseShort (← r.choose c none) rest

/-- The fault that an argument is which is neither an option nor a value nor a command. -/
def stray (r : Reading) (argument : String) : UsageError :=
  let commands := r.current.place.commands
  if commands.isEmpty then .unknownArgument
  else if r.trailing && (argument = Place.helpWord || (commands.lookup argument).isSome) then
    .unknownArgument
  else .unknownCommand

/-- What help is asked for: it is there for commands only. -/
def helpFor (p : Place) : List String → UsageError
  | [] => .helpWanted
  | word :: rest =>
    match p.commands.lookup word with
    | some next => helpFor next rest
    | none =>
      if word = Place.helpWord && !p.commands.isEmpty && rest.isEmpty then .helpWanted
      else .unknownCommand

/-- Goes on after a command. -/
def descend (r : Reading) (p : Place) : Reading := ⟨.start p, r.current :: r.outer, false⟩

def readOne (r : Reading) (argument : String) : Except UsageError Reading :=
  match argument.toList with
  | ['-', '-'] => .ok { r with trailing := true }
  | '-' :: '-' :: rest =>
    let name := String.ofList (rest.takeWhile (· ≠ '='))
    match rest.dropWhile (· ≠ '=') with
    | [] => r.chooseLong name none
    | _ :: value => r.chooseLong name (some (String.ofList value))
  | '-' :: letter :: rest => r.chooseShort (letter :: rest)
  | _ =>
    match r.current.awaiting? with
    | some c => .ok { r with current := { r.current with held := some ⟨c, some argument⟩ } }
    | none => .error (r.stray argument)

def readAll (r : Reading) : List String → Except UsageError Reading
  | [] => .ok r
  | argument :: rest =>
    if r.trailing then .error (r.stray argument)
    else
      let commands := if r.current.awaiting?.isSome then [] else r.current.place.commands
      match commands.lookup argument with
      | some next => readAll (r.descend next) rest
      | none =>
        if argument = Place.helpWord && !commands.isEmpty then
          .error (helpFor r.current.place rest)
        else
          match r.readOne argument with
          | .ok next => readAll next rest
          | .error e => .error e

end Reading

/-- The values that variables give at a place to the options that are not given there. -/
def fromVariables (e : Config.Environment) (g : Given) :
    List Choice → Except UsageError (List (String × String))
  | [] => .ok []
  | c :: rest => do
    match c.envName.bind e.raw? with
    | some value =>
      if (g.values.lookup c.long).isSome then fromVariables e g rest
      else
        checkValue c value
        return (c.long, value) :: (← fromVariables e g rest)
    | none => fromVariables e g rest

/-- Checks a place; `isLast` says that no command follows. The values that are given, and those
that variables give. -/
def checkPlace (e : Config.Environment) (isLast : Bool) (unsettled : Given) :
    Except UsageError (List (String × String) × List (String × String)) := do
  let g ← unsettled.settleHeld
  let filled ← fromVariables e g g.place.choices
  if isLast && !g.place.commands.isEmpty then
    if g.values.isEmpty && filled.isEmpty then throw .nothingGiven else throw .missingCommand
  if g.place.required.any fun name => ((g.values ++ filled).lookup name).isNone then
    throw .missingArgument
  return (g.values, filled)

/-- Checks all places, the last one first: the values that count for the options. -/
def settle (e : Config.Environment) (isLast : Bool) :
    List Given → Except UsageError (List (String × String) × List (String × String))
  | [] => .ok ([], [])
  | g :: outer => do
    let (values, filled) ← checkPlace e isLast g
    let (given, others) ← settle e false outer
    return (values ++ given, filled ++ others)

def commandAt (value? : String → Option String) : Place → Option Command
  | .check => some .check
  | .display => some (.display (value? "model"))
  | .apply => (value? "file").map fun file => .apply file (value? "dry-run").isSome
  | .saveKey => do return .key (.save (← value? "name") (← value? "key"))
  | .retrieveKey => (value? "name").map fun name => .key (.retrieve name)
  | .deleteKey => (value? "name").map fun name => .key (.delete name)
  | .top | .key => none

/-- The format of results if none is given. -/
def defaultOutput : String := "table"

def ofValues (value? : String → Option String) (command : Command) : Arguments where
  baseUrl := value? "base-url"
  username := value? "username"
  password := value? "password"
  apiToken := value? "api-token"
  timeout := (value? "timeout").bind Text.word?
  maxRetries := (value? "max-retries").bind Text.word?
  skipVerify := (value? "skip-verify").isSome
  profile := value? "profile"
  configPath := value? "config-path"
  app := value? "app"
  realm := value? "realm"
  output := (value? "output").getD defaultOutput
  outputFile := value? "output-file"
  logJson := (value? "log-json").isSome
  command := command

def read (e : Config.Environment) (arguments : List String) : Except UsageError Arguments := do
  let r ← Reading.start.readAll arguments
  let (given, filled) ← settle e true (r.current :: r.outer)
  let value? (name : String) := (given ++ filled).lookup name
  match commandAt value? r.current.place with
  | some command => return ofValues value? command
  | none => throw .missingCommand

end Arguments

end AccelForm
