import AccelForm.Acceleration.Setting
import AccelForm.Attribute.Reading
import AccelForm.TimeRange
/-
  Problems with acceleration settings

  The switch that turns acceleration on is always checked; the other settings
  are checked only while it is on. A setting has at most one problem, and the
  problems are listed in the order of the form. A bag without problems has a
  typed view.
-/

namespace AccelForm

/-- Why a setting cannot be saved. -/
inductive Problem where
  | enabledNotBoolean
  | invalidSummaryRange
  | invalidBackfillRange
  | backfillBeforeSummary
  | maxTimeNotInteger
  | maxConcurrentNotInteger
  | manualRebuildsNotBoolean
  | unknownPriority
  | pollNotBoolean
  deriving DecidableEq, Repr

namespace Problem

def setting : Problem → Setting
  | .enabledNotBoolean => .enabled
  | .invalidSummaryRange => .earliestTime
  | .invalidBackfillRange => .backfillTime
  | .backfillBeforeSummary => .backfillTime
  | .maxTimeNotInteger => .maxTime
  | .maxConcurrentNotInteger => .maxConcurrent
  | .manualRebuildsNotBoolean => .manualRebuilds
  | .unknownPriority => .schedulePriority
  | .pollNotBoolean => .pollBucketsUntilMaxtime

def message : Problem → String
  | .enabledNotBoolean => "Enabled should be boolean"
  | .invalidSummaryRange => "Invalid Summary Range"
  | .invalidBackfillRange => "Invalid Backfill Range"
  | .backfillBeforeSummary => "Backfill Range should be more recent than Summary Range"
  | .maxTimeNotInteger => "max_time should be an integer"
  | .maxConcurrentNotInteger => "max_concurrent should be an integer"
  | .manualRebuildsNotBoolean => "manual_rebuilds should be boolean"
  | .unknownPriority => "schedule_priority should be one of default, higher or highest"
  | .pollNotBoolean => "poll_buckets_until_maxtime should be boolean"

end Problem

namespace Bag

def setting? (b : Bag) (s : Setting) : Option Json := b.get? s.attributeName

def settingText (b : Bag) (s : Setting) : String := valueText (b.setting? s)

/-- Whether acceleration is turned on, if that can be read. -/
def enabled? (b : Bag) : Option Bool := (b.setting? .enabled).bind flag?

/-- The backfill range that applies: the summary range where none is set. -/
def backfillText (b : Bag) : String :=
  let backfill := b.settingText .backfillTime
  if backfill = "" then b.settingText .earliestTime else backfill

def summaryProblem? (b : Bag) : Option Problem :=
  let summary := b.settingText .earliestTime
  if summary ≠ "" && !TimeRange.isValid summary then some .invalidSummaryRange else none

def backfillProblem? (b : Bag) : Option Problem :=
  let backfill := b.backfillText
  if (TimeRange.span backfill).above (TimeRange.span (b.settingText .earliestTime)) then
    some .backfillBeforeSummary
  else if backfill ≠ "" && !TimeRange.isValid backfill then some .invalidBackfillRange
  else none

def maxTimeProblem? (b : Bag) : Option Problem :=
  if (integer? (b.setting? .maxTime)).isNone then some .maxTimeNotInteger else none

def maxConcurrentProblem? (b : Bag) : Option Problem :=
  if (integer? (b.setting? .maxConcurrent)).isNone then some .maxConcurrentNotInteger else none

def manualRebuildsProblem? (b : Bag) : Option Problem :=
  match b.setting? .manualRebuilds with
  | none => none
  | some v => if (flag? v).isNone then some .manualRebuildsNotBoolean else none

def priorityProblem? (b : Bag) : Option Problem :=
  let priority := b.settingText .schedulePriority
  if priority ≠ "" && (Priority.ofWord? priority).isNone then some .unknownPriority else none

/-- What is wrong with the switch for accelerating until the longest time. -/
def pollProblem? (b : Bag) : Option Problem :=
  match b.setting? .pollBucketsUntilMaxtime with
  | none => none
  | some .null => none
  | some v => if (flag? v).isNone then some .pollNotBoolean else none

/-- The problems of the settings other than the switch that turns acceleration on. -/
def detailProblems (b : Bag) : List Problem :=
  [b.summaryProblem?, b.backfillProblem?, b.maxTimeProblem?, b.maxConcurrentProblem?,
    b.manualRebuildsProblem?, b.priorityProblem?, b.pollProblem?].filterMap id

def problems (b : Bag) : List Problem :=
  match b.enabled? with
  | none => [.enabledNotBoolean]
  | some false => []
  | some true => b.detailProblems

end Bag

structure Acceleration where
  enabled : Bool
  earliestTime : String
  backfillTime : String
  maxTime : Int
  maxConcurrent : Int
  manualRebuilds : Bool
  schedulePriority : Option Priority
  pollBucketsUntilMaxtime : Option Bool
  deriving DecidableEq, Repr

/-- The settings of a bag, or the problems that prevent them. What cannot be read, which is
possible only while acceleration is off, counts as zero, off or unset. -/
def Acceleration.ofBag (b : Bag) : Except (List Problem) Acceleration :=
  match b.problems with
  | [] => .ok {
      enabled := b.enabled?.getD false
      earliestTime := b.settingText .earliestTime
      backfillTime := b.settingText .backfillTime
      maxTime := (integer? (b.setting? .maxTime)).getD 0
      maxConcurrent := (integer? (b.setting? .maxConcurrent)).getD 0
      manualRebuilds := ((b.setting? .manualRebuilds).bind flag?).getD false
      schedulePriority := Priority.ofWord? (b.settingText .schedulePriority)
      pollBucketsUntilMaxtime := (b.setting? .pollBucketsUntilMaxtime).bind flag? }
  | found => .error found

end AccelForm
