import AccelForm.Form.Plan
import AccelForm.Json.Record
/-
  Edit files

  An edit file gives data models edits: a whitelist, a tags whitelist, and
  values of settings under their keys or attributes. The data models are
  edited in the order of their names, the settings in the order of the file.
  Editing stops at the first edit that the form refuses; problems with values
  do not stop it but are noted after the last setting of a data model.
-/

namespace AccelForm

open Json (Reader Fields)

structure ModelEdits where
  indexes : Option String
  tags : Option String
  settings : List (String × Json)
  deriving DecidableEq, Repr

/-- Edits under the names of data models, in the order of the names. -/
abbrev Edits := List (String × ModelEdits)

namespace Edits

/-- Reads a whitelist: names, or names joined by commas. -/
def readIndexes : Reader String
  | _, .string s => s
  | room, d => (Reader.list Reader.text room d).map (",".intercalate ·)

def readModel : Reader ModelEdits := fun room d => do
  let fs ← Fields.ofObject? ["indexes", "tags_whitelist"] room d
  let entries ← Reader.members Reader.value room d
  return {
    indexes := ← fs.getD "indexes" none (Reader.optional readIndexes)
    tags := ← fs.getD "tags_whitelist" none (Reader.optional Reader.text)
    settings := settleEntries
      (entries.filter fun e => e.1 ≠ "indexes" && e.1 ≠ "tags_whitelist") }

/-- Puts edits among edits in the order of the names, over those of the same name. -/
def insert (es : Edits) (e : String × ModelEdits) : Edits :=
  match es with
  | [] => [e]
  | f :: rest =>
    if e.1 = f.1 then e :: rest
    else if e.1 < f.1 then e :: f :: rest
    else f :: insert rest e

/-- Reads an edit file; of two entries for one data model the later one counts. -/
def read : Reader Edits := fun room d =>
  (Reader.members readModel room d).map (·.foldl insert [])

def setNamed (f : Form) (model : String) (e : String × Json) : Except FormError Form :=
  match Setting.ofName? e.1 with
  | none => .error (.unknownSetting model e.1)
  | some s => f.setSetting model s e.2

/-- Makes edits one after the other: the form as far as it came, and the first refusal. -/
def makeAll (make : Form → α → Except FormError Form) (f : Form) :
    List α → Form × Except FormError Unit
  | [] => (f, .ok ())
  | e :: rest =>
    match make f e with
    | .ok next => makeAll make next rest
    | .error refusal => (f, .error refusal)

inductive Edit where
  | whitelist (display : String)
  | tags (display : String)
  | setting (e : String × Json)
  deriving DecidableEq, Repr

/-- The edits of one data model in the order in which they are made. -/
def steps (e : ModelEdits) : List Edit :=
  (e.indexes.map .whitelist).toList ++ (e.tags.map .tags).toList ++ e.settings.map .setting

def make (model : String) (f : Form) : Edit → Except FormError Form
  | .whitelist display => f.setWhitelist model display
  | .tags display => f.setTags model display
  | .setting e => setNamed f model e

/-- The problems that are noted after settings of a data model were set. -/
def noted (f : Form) (model : String) (e : ModelEdits) : List InvalidChange :=
  match f.row? model with
  | none => []
  | some r => if e.settings.isEmpty || r.problems.isEmpty then [] else [⟨model, r.problems⟩]

/-- Makes all edits: the form as far as it came, and the problems or the first refusal. -/
def apply (f : Form) : Edits → Form × Except FormError (List InvalidChange)
  | [] => (f, .ok [])
  | (model, e) :: rest =>
    match makeAll (make model) f (steps e) with
    | (stopped, .error refusal) => (stopped, .error refusal)
    | (next, .ok _) =>
      let (last, result) := apply next rest
      (last, result.map (noted next model e ++ ·))

end Edits

end AccelForm
