import AccelForm.Command.Arguments
/-
  Usage

  Who asks for help or for the version gets an answer and the exit code of
  success. Any other fault in the arguments is told together with the usage
  line and has an exit code of its own.
-/

namespace AccelForm

def programName : String := "cim-setup"

def programVersion : String := "0.1.0"

/-- How the program is called. -/
def usageLine : String := "Usage: " ++ programName ++ " [OPTIONS] <COMMAND>"

namespace UsageError

/-- Whether the caller asked for what is shown. -/
def isWanted : UsageError → Bool
  | .helpWanted | .versionWanted => true
  | _ => false

/-- What is wrong with the arguments, if something is. -/
def problem? : UsageError → Option String
  | .helpWanted | .versionWanted | .nothingGiven => none
  | .missingCommand => some "a command is missing"
  | .missingArgument => some "a required option is missing"
  | .unknownArgument => some "there is no such option here"
  | .unknownCommand => some "there is no such command here"
  | .missingValue => some "an option lacks its value"
  | .invalidValue => some "the value of an option is invalid"
  | .repeatedArgument => some "an option is given twice"
  | .excessValue => some "an option that takes no value has one"

def lines : UsageError → List String
  | .versionWanted => [programName ++ " " ++ programVersion]
  | e => (e.problem?.map ("error: " ++ ·)).toList ++ [usageLine]

def exitNumber (e : UsageError) : Nat := if e.isWanted then 0 else 2

end UsageError

end AccelForm
