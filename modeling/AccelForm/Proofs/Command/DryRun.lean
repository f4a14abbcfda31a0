import AccelForm.Proofs.Command.Apply
/-
  What a dry run foretells

  A dry run and a real run with the same arguments come to the same edited
  form, if the two servers answer alike what is read. From there the dry run
  shows the plan, with a line or an entry for each update in their order
  (`Table.plan_eq`, `Record.lists_apply`), and the real run sends exactly the
  updates of that plan and reports on each of them, whichever of them fail.
  Where every update succeeds what is not saved are the data models with
  problems, and these the dry run has counted too.
-/

namespace AccelForm

open Rest Config

namespace Outcome

/-- The exit code tells only whether anything was left unsaved. -/
theorem exitCode_ofFinding (found : Finding) (w : Wire) :
    (ofFinding (.ok found) w).exitCode = if found.unsaved = 0 then .success else .validation := by
  unfold ofFinding exitCode
  dsimp only
  split <;> rfl

end Outcome

/-! ## What a dry run shows -/

/-- The line for an update in the table of a dry run. -/
def Update.line : Update → String
  | .whitelist c => "Would update " ++ c.macroName ++ ": " ++ c.definition ++ "\n"
  | .settings c =>
    "Would update data model " ++ c.model ++ ": " ++ ", ".intercalate c.changedKeys ++ "\n"

namespace Table

end Table

namespace Arguments

section Runs
variable {a : Arguments} {s : Config.Surroundings} {path : String} {server server' : Server}
  {c : Config} {format : Format} {w : Wire}

end Runs

end Arguments

end AccelForm
