import AccelForm.Json.Document
import AccelForm.Acceleration.Change
import AccelForm.Acceleration.Problem
import AccelForm.Whitelist
import AccelForm.Url.Basic
import AccelForm.Rest.Client
import AccelForm.Config.Loader
import AccelForm.Config.Writer
import AccelForm.Form.Remote
import AccelForm.Form.Editing
import AccelForm.ApiKey
import AccelForm.Display.Format
import AccelForm.Command.Edits
import AccelForm.Command.Usage
import AccelForm.Command.Run
import AccelForm.Main
import AccelForm.Proofs.Attribute.Change
import AccelForm.Proofs.Attribute.Unchanged
import AccelForm.Proofs.Acceleration.Reload
import AccelForm.Proofs.Form.Edit
import AccelForm.Proofs.Form.Answer
import AccelForm.Proofs.Form.Ledger
import AccelForm.Proofs.Form.Resend
import AccelForm.Proofs.Form.Sent
import AccelForm.Proofs.Acceleration.Check
import AccelForm.Proofs.Acceleration.Revert
import AccelForm.Proofs.Form.Recovery
import AccelForm.Proofs.Command.DryRun
import AccelForm.Proofs.Command.Modify
import AccelForm.Proofs.Form.Naming
import AccelForm.Proofs.Form.Distinct
import AccelForm.Proofs.Text.Trim
import AccelForm.Proofs.Whitelist.Display
import AccelForm.Proofs.Form.Resubmit
import AccelForm.Proofs.Form.Pending
import AccelForm.Proofs.ApiKey.History
import AccelForm.Proofs.Attribute.Order
import AccelForm.Proofs.Form.Order
import AccelForm.Proofs.Command.Order
import AccelForm.Proofs.Command.Shuffle
import AccelForm.Proofs.Command.AnyOrder
import AccelForm.Proofs.Rest.Address
import AccelForm.Proofs.Rest.Operation
import AccelForm.Proofs.Rest.Cost
import AccelForm.Proofs.Rest.Answers
import AccelForm.Proofs.Rest.Renewal
import AccelForm.Proofs.Rest.Bearer
import AccelForm.Proofs.Rest.Tenure
import AccelForm.Proofs.Config.Build
import AccelForm.Proofs.Rest.Secrets
import AccelForm.Proofs.Rest.Twins
import AccelForm.Proofs.Config.Secrets
import AccelForm.Proofs.Command.Secrecy
import AccelForm.Proofs.Config.Precedence
import AccelForm.Proofs.Form.Selection
import AccelForm.Proofs.Command.Blank
import AccelForm.Proofs.Json.Spelling
import AccelForm.Proofs.Config.Stored
import AccelForm.Proofs.Form.InPlace
import AccelForm.Proofs.Form.Rollback
import AccelForm.Proofs.Form.Status
import AccelForm.Proofs.Acceleration.Remedy
import AccelForm.Proofs.Form.Visible
import AccelForm.Proofs.Attribute.Difference
import AccelForm.Proofs.Whitelist.Written
import AccelForm.Proofs.TimeRange.Order
import AccelForm.Proofs.Acceleration.Backfill
import AccelForm.Proofs.TimeRange.Count
import AccelForm.Proofs.Rest.Attempts
import AccelForm.Proofs.Command.Exhausted
import AccelForm.Proofs.Config.Usable
import AccelForm.Proofs.Acceleration.Release
import AccelForm.Proofs.Rest.Update
import AccelForm.Proofs.Form.Completion
import AccelForm.Proofs.Rest.LogIn
import AccelForm.Proofs.Rest.Latest
