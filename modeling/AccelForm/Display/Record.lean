import AccelForm.Form.Save
import AccelForm.Form.View
/-
  Records of results

  The results of the commands as records with fields in a fixed order, for the
  formats that machines read. A field that does not apply is left out.
-/

namespace AccelForm

/-- The answer to the question whether the caller has the capability. -/
structure CheckResult where
  capability : String
  permitted : Bool
  deriving DecidableEq, Repr

structure FormResult where
  version : Option String
  features : Features
  rows : List RowView
  indexes : List String
  tags : List String
  isDetailed : Bool
  deriving Repr

/-- What became of an edit file: the plan of a dry run, or the report of a save. -/
structure ApplyResult where
  dryRun : Bool
  editProblems : List InvalidChange
  plan : Option Plan
  report : Option SaveReport
  deriving Repr

/-- What became of a stored key. -/
structure KeyResult where
  operation : String
  name : String
  realm : String
  message : String
  key : Option String
  deriving DecidableEq, Repr

abbrev Record := List (String × Json)

namespace Record

/-- A field that is there if it has a value. -/
def ifSome (name : String) (f : α → Json) : Option α → Record
  | none => []
  | some a => [(name, f a)]

/-- Problems under the keys of their settings. -/
def problems (ps : List Problem) : Json :=
  .object (ps.map fun p => (p.setting.key, .string p.message))

def features (f : Features) : Json := .object [
  ("schedule_priority", .bool f.schedulePriority),
  ("poll_buckets_until_maxtime", .bool f.pollBucketsUntilMaxtime),
  ("tags_whitelist", .bool f.tagsWhitelist)]

def acceleration (a : Acceleration) : Json := .object [
  ("enabled", .bool a.enabled),
  ("earliest_time", .string a.earliestTime),
  ("backfill_time", .string a.backfillTime),
  ("max_time", .number (.int a.maxTime)),
  ("max_concurrent", .number (.int a.maxConcurrent)),
  ("manual_rebuilds", .bool a.manualRebuilds),
  ("schedule_priority", .ofOption (fun p => .string p.word) a.schedulePriority),
  ("poll_buckets_until_maxtime", .ofOption .bool a.pollBucketsUntilMaxtime)]

def status : Status → Json
  | .saved => .object [("state", .string "saved")]
  | .saveFailed message =>
    .object [("state", .string "save_failed"), ("message", .string message)]
  | .invalid ps => .object [("state", .string "invalid"), ("errors", problems ps)]

def restriction (r : Whitelist.Restriction) : Json :=
  .object [("text", .string r.text), ("has_more", .bool r.hasMore)]

def settingView (v : SettingView) : Json :=
  .object ([("field", .string v.setting.key), ("label", .string v.setting.label),
    ("value", .string v.value), ("enabled", .bool v.isEnabled)] ++
      ifSome "error" (fun p => .string p.message) v.problem)

def rowView (v : RowView) : Json :=
  .object ([("model", .string v.model), ("label", .string v.label),
    ("macro_name", .ofOption .string v.macroName), ("whitelist", .string v.whitelist),
    ("restriction", restriction v.restriction), ("selected", .bool v.isSelected),
    ("dirty", .bool v.isDirty), ("controls_enabled", .bool v.controlsEnabled),
    ("settings", .ofOption acceleration v.acceleration),
    ("fields", .array (v.settings.map settingView))] ++
      ifSome "tags_whitelist" .string v.tagsWhitelist ++
      [("errors", problems v.problems)] ++ ifSome "status" status v.status)

def whitelistChange (c : WhitelistChange) : Json := .object [
  ("model", .string c.model), ("macro_name", .string c.macroName),
  ("definition", .string c.definition)]

def pairs (ps : List (String × String)) : Json :=
  .array (ps.map fun (k, v) => .texts [k, v])

def settingsChange (c : SettingsChange) : Json := .object [
  ("model", .string c.model), ("changed_keys", .texts c.changedKeys), ("params", pairs c.params)]

def invalidChange (c : InvalidChange) : Json := .object [
  ("model", .string c.model), ("errors", problems c.problems)]

def plan (p : Plan) : Json := .object [
  ("whitelists", .array (p.whitelists.map whitelistChange)),
  ("datamodels", .array (p.settings.map settingsChange)),
  ("invalid", .array (p.invalid.map invalidChange))]

def kindWord : SaveKind → String
  | .whitelist => "whitelist"
  | .settings => "acceleration"

def outcome : SaveOutcome → Record
  | .saved => [("outcome", .string "saved")]
  | .failed message => [("outcome", .string "failed"), ("message", .string message)]
  | .invalid ps => [("outcome", .string "invalid"), ("errors", problems ps)]

def saveItem (i : SaveItem) : Json :=
  .object ([("model", .string i.model), ("kind", .string (kindWord i.kind))] ++ outcome i.outcome)

def report (r : SaveReport) : Json := .object [("items", .array (r.items.map saveItem))]

/-- The answer to the question whether the caller has the capability. -/
def check (r : CheckResult) : Record :=
  [("capability", .string r.capability), ("permitted", .bool r.permitted)]

def form (r : FormResult) : Record := [
  ("version", .ofOption .string r.version), ("features", features r.features),
  ("rows", .array (r.rows.map rowView)), ("indexes", .texts r.indexes), ("tags", .texts r.tags)]

def apply (r : ApplyResult) : Record :=
  [("dry_run", .bool r.dryRun), ("edit_errors", .array (r.editProblems.map invalidChange))] ++
    ifSome "plan" plan r.plan ++ ifSome "report" report r.report

def key (r : KeyResult) : Record :=
  [("operation", .string r.operation), ("name", .string r.name), ("realm", .string r.realm),
    ("message", .string r.message)] ++ ifSome "key" .string r.key

end Record

end AccelForm
