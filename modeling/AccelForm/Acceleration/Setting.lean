/-
  Acceleration settings

  The eight settings of a data model's acceleration in the order of the form.
  Each has a short key, an attribute name and a label; a setting may be named
  by its key or by its attribute.
-/

namespace AccelForm

inductive Setting where
  | enabled
  | earliestTime
  | backfillTime
  | maxTime
  | maxConcurrent
  | manualRebuilds
  | schedulePriority
  | pollBucketsUntilMaxtime
  deriving DecidableEq, Repr

namespace Setting

def all : List Setting :=
  [.enabled, .earliestTime, .backfillTime, .maxTime, .maxConcurrent, .manualRebuilds,
    .schedulePriority, .pollBucketsUntilMaxtime]

def attributeName : Setting → String
  | .enabled => "acceleration"
  | .earliestTime => "acceleration.earliest_time"
  | .backfillTime => "acceleration.backfill_time"
  | .maxTime => "acceleration.max_time"
  | .maxConcurrent => "acceleration.max_concurrent"
  | .manualRebuilds => "acceleration.manual_rebuilds"
  | .schedulePriority => "acceleration.schedule_priority"
  | .pollBucketsUntilMaxtime => "acceleration.poll_buckets_until_maxtime"

def key : Setting → String
  | .enabled => "enabled"
  | .earliestTime => "earliest_time"
  | .backfillTime => "backfill_time"
  | .maxTime => "max_time"
  | .maxConcurrent => "max_concurrent"
  | .manualRebuilds => "manual_rebuilds"
  | .schedulePriority => "schedule_priority"
  | .pollBucketsUntilMaxtime => "poll_buckets_until_maxtime"

def label : Setting → String
  | .enabled => "Accelerate"
  | .earliestTime => "Summary Range"
  | .backfillTime => "Backfill Range"
  | .maxTime => "Max Summarization Search Time"
  | .maxConcurrent => "Max Concurrent Summarization Searches"
  | .manualRebuilds => "Manual rebuilds"
  | .schedulePriority => "Schedule priority"
  | .pollBucketsUntilMaxtime => "Accelerate until maximum time"

def isSwitch : Setting → Bool
  | .enabled | .manualRebuilds | .pollBucketsUntilMaxtime => true
  | _ => false

/-- The setting named by a short key or an attribute. -/
def ofName? (name : String) : Option Setting :=
  (all.find? (·.key == name)).or (all.find? (·.attributeName == name))

theorem mem_all (s : Setting) : s ∈ all := by cases s <;> decide

end Setting

def unknownSettingMessage (name : String) : String := "unknown acceleration field: " ++ name

/-- The attribute that lists the tags a data model may use. -/
def tagsAttribute : String := "tags_whitelist"

/-- The attributes that say where an entity came from. -/
def provenanceAttributes : List String := ["eai:appName", "eai:userName"]

inductive Priority where
  | default
  | higher
  | highest
  deriving DecidableEq, Repr

namespace Priority

def word : Priority → String
  | .default => "default"
  | .higher => "higher"
  | .highest => "highest"

def ofWord? (w : String) : Option Priority :=
  [Priority.default, .higher, .highest].find? (·.word == w)

end Priority

end AccelForm
