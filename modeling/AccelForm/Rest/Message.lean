import AccelForm.Json.Record
/-
  Messages of the server

  A refusal carries messages, each with a severity and a text. A severity that
  is not known is kept as such.
-/

namespace AccelForm.Rest

open Json (Reader Fields)

inductive Severity where
  | error
  | warn
  | info
  | unknown
  deriving DecidableEq, Repr

namespace Severity

def ofWord (w : String) : Severity :=
  if w = "ERROR" then .error
  else if w = "WARN" then .warn
  else if w = "INFO" then .info
  else .unknown

def word : Severity → String
  | .error => "ERROR"
  | .warn => "WARN"
  | .info => "INFO"
  | .unknown => "UNKNOWN"

/-- Reads a severity: a word, or an object whose one member has the word as its key and null
as its value. -/
def read : Reader Severity
  | _, .string w => w.map ofWord
  | room, .object [(w, .null)] => if room ≤ 1 then none else w.map ofWord
  | _, _ => none

end Severity

structure Message where
  severity : Severity
  text : String
  deriving DecidableEq, Repr

def Message.read : Reader Message := fun room d => do
  let fs ← Fields.read? ["type", "text"] room d
  return {
    severity := ← fs.required "type" Severity.read
    text := ← fs.required "text" Reader.text }

namespace Messages

def read : Reader (List Message) := fun room d => do
  let fs ← Fields.read? ["messages"] room d
  fs.required "messages" (Reader.list Message.read)

def joined (ms : List Message) : String :=
  "; ".intercalate (ms.map fun m => m.severity.word ++ ": " ++ m.text)

end Messages

end AccelForm.Rest
