import AccelForm.Display.Record
/-
  Results for people

  The results of the commands as lines of text. The columns of a table are
  filled with blanks up to a fixed number of characters; a longer text is not
  cut.
-/

namespace AccelForm.Table

/-- A text filled with blanks up to a width. -/
def cell (width : Nat) (s : String) : String :=
  s ++ String.ofList (List.replicate (width - s.length) ' ')

def line (parts : List String) : String := String.join parts ++ "\n"

def problems (ps : List Problem) : String :=
  String.join (ps.map fun p => line ["  ", p.setting.label, ": ", p.message])

/-- A text, or what stands for an empty one. -/
def orElse (fallback s : String) : String := if s = "" then fallback else s

/-- The answer to the question whether the caller has the capability. -/
def check (r : CheckResult) : String :=
  line ["Capability ", r.capability, ": ", if r.permitted then "granted" else "missing"]

def statusWord (v : RowView) : String :=
  match v.status with
  | some .saved => "Saved"
  | some (.saveFailed _) => "Failed"
  | some (.invalid _) => "Invalid"
  | none => if v.isDirty then "Modified" else ""

def rowLine (marker model accelerated status indexes : String) : String :=
  line [cell 2 marker, " ", cell 32 model, " ", cell 12 accelerated, " ", cell 10 status, " ",
    indexes]

def rowHead : String :=
  rowLine "" "DATA MODEL" "ACCELERATED" "STATUS" "INDEXES" ++
    rowLine "" "==========" "===========" "======" "======="

def row (v : RowView) : String :=
  rowLine (if v.isSelected then ">" else "") v.label (if v.controlsEnabled then "Yes" else "No")
    (statusWord v) (v.restriction.text ++ if v.restriction.hasMore then "..." else "")

def setting (v : SettingView) : String :=
  line [v.setting.label, ": ", orElse "N/A" v.value, if v.isEnabled then "" else " (disabled)"]

def tagsLine : Option String → String
  | none => ""
  | some tags => line ["Tags whitelist: ", orElse "N/A" tags]

def failureLine : Option Status → String
  | some (.saveFailed message) => line ["Save failed: ", message]
  | _ => ""

def detail (v : RowView) : String :=
  "\n" ++ line ["--- ", v.label, " ---"] ++
    line ["Whitelist macro: ", v.macroName.getD "N/A"] ++
    line ["Indexes: ", orElse "All" v.whitelist] ++
    String.join (v.settings.map setting) ++ tagsLine v.tagsWhitelist ++ problems v.problems ++
    failureLine v.status

/-- The lines for the release of the server. -/
def versionLines : Option String → String
  | none => ""
  | some version => line ["Splunk version: ", version] ++ "\n"

def form (r : FormResult) : String :=
  versionLines r.version ++
    if r.rows.isEmpty then "No data models found.\n"
    else rowHead ++ String.join (r.rows.map row) ++
      if r.isDetailed then String.join (r.rows.map detail) else ""

def nothingToSave : String := "No changes to save.\n"

def plan (p : Plan) : String :=
  (if p.isEmpty then nothingToSave else "") ++
    String.join (p.whitelists.map fun c =>
      line ["Would update ", c.macroName, ": ", c.definition]) ++
    String.join (p.settings.map fun c =>
      line ["Would update data model ", c.model, ": ", ", ".intercalate c.changedKeys]) ++
    String.join (p.invalid.map fun c =>
      line ["Would reject ", c.model, ":"] ++ problems c.problems)

def outcome : SaveOutcome → String
  | .saved => "Saved"
  | .failed message => "Failed: " ++ message
  | .invalid ps => "Invalid: " ++ ", ".intercalate (ps.map (·.setting.label))

def itemLine (model item result : String) : String :=
  line [cell 32 model, " ", cell 14 item, " ", result]

def report (r : SaveReport) : String :=
  if r.isEmpty then nothingToSave
  else itemLine "DATA MODEL" "ITEM" "RESULT" ++ itemLine "==========" "====" "======" ++
    String.join (r.items.map fun i =>
      itemLine i.model (Record.kindWord i.kind) (outcome i.outcome))

/-- What became of an edit file. -/
def apply (r : ApplyResult) : String :=
  String.join (r.editProblems.map fun c =>
      line ["Invalid edits for ", c.model, ":"] ++ problems c.problems) ++
    r.plan.elim "" plan ++ r.report.elim "" report

/-- What became of a stored key. -/
def key (r : KeyResult) : String := line [r.message] ++ r.key.elim "" fun secret => line [secret]

end AccelForm.Table
