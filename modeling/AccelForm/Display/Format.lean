import AccelForm.Display.Table
import AccelForm.Display.Yaml
/-
  Formats

  A result is shown as a table for people, or as JSON or YAML for machines.
-/

namespace AccelForm

inductive Format where
  | table
  | json
  | yaml
  deriving DecidableEq, Repr

namespace Format

/-- The format that a word stands for, in any case of its letters. -/
def ofWord? (w : String) : Option Format :=
  let w := Text.lower w
  if w = "table" then some .table
  else if w = "json" then some .json
  else if w = "yaml" || w = "yml" then some .yaml
  else none

def unknownMessage (w : String) : String :=
  "Invalid output format: " ++ w ++ ". Valid options: table, json, yaml"

def write (f : Format) (table : String) (record : Record) : String :=
  match f with
  | .table => table
  | .json => (Json.object record).indented ++ "\n"
  | .yaml => Yaml.document record

/-- The answer to the question whether the caller has the capability. -/
def check (f : Format) (r : CheckResult) : String := f.write (Table.check r) (Record.check r)

def form (f : Format) (r : FormResult) : String := f.write (Table.form r) (Record.form r)

/-- What became of an edit file. -/
def apply (f : Format) (r : ApplyResult) : String := f.write (Table.apply r) (Record.apply r)

/-- What became of a stored key. -/
def key (f : Format) (r : KeyResult) : String := f.write (Table.key r) (Record.key r)

end Format

end AccelForm
