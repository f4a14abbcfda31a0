import AccelForm.Text.Blank
/-
  Environments

  An environment gives names values; the last one given to a name counts. A
  variable that is blank counts as unset, and blanks around a value are
  dropped. A process is handed its environment as a block of entries, each
  ended by a zero byte.
-/

namespace AccelForm.Config

/-- Variables and their values, the latest first. -/
structure Environment where
  bindings : List (String × String)

namespace Environment

/-- The environment without variables. -/
def empty : Environment := ⟨[]⟩

def raw? (e : Environment) (name : String) : Option String := e.bindings.lookup name

def set (e : Environment) (name value : String) : Environment := ⟨(name, value) :: e.bindings⟩

/-- The environment with one variable set if it has no value yet. -/
def setIfUnset (e : Environment) (name value : String) : Environment :=
  if (e.raw? name).isSome then e else e.set name value

/-- The value of a variable without the blanks around it, unless it is blank. -/
def value? (e : Environment) (name : String) : Option String :=
  ((e.raw? name).map Text.trim).filter (· ≠ "")

/-- The variable that an entry sets: an equals sign ends its name. -/
def ofEntry? (entry : List UInt8) : Option (String × String) := do
  match (← String.fromUTF8? ⟨entry.toArray⟩).toList.span (· ≠ '=') with
  | (name, '=' :: value) => return (String.ofList name, String.ofList value)
  | _ => none

/-- The environment in a block of entries; entries that are no text are left out. -/
def ofBlock (block : List UInt8) : Environment := ⟨(block.splitOn 0).filterMap ofEntry?⟩

end Environment

end AccelForm.Config
