import CloudSweep.Main
import CloudSweep.Call.InMemory
import CloudSweep.Gcloud.Scripted
import CloudSweep.Program.Lemmas
import CloudSweep.Proofs.Program.Pool
import CloudSweep.Proofs.Program.Footprint
import CloudSweep.Proofs.Program.Machine
import CloudSweep.Proofs.Program.Sequence
import CloudSweep.Proofs.Selection.Groups
import CloudSweep.Proofs.Selection.Partition
import CloudSweep.Proofs.Text.ByteOrder
import CloudSweep.Proofs.Deletion.Plan
import CloudSweep.Proofs.Sweep.Runs
import CloudSweep.Proofs.Sweep.Footprint
import CloudSweep.Proofs.Sweep.Soundness
import CloudSweep.Proofs.Deletion.Outcome
import CloudSweep.Proofs.Sweep.Deletion
import CloudSweep.Proofs.Report
import CloudSweep.Proofs.Sweep.ExitStatus
import CloudSweep.Proofs.Sweep.Dispatch
import CloudSweep.Proofs.Program.Sites
import CloudSweep.Proofs.Sweep.Sites
import CloudSweep.Proofs.Deletion.Order
import CloudSweep.Proofs.Selection.Preserved
import CloudSweep.Proofs.Program.Comparison
import CloudSweep.Proofs.Sweep.Ledger
import CloudSweep.Proofs.Sweep.Comparison
import CloudSweep.Proofs.Sweep.Isolation
import CloudSweep.Proofs.Sweep.DryRun
import CloudSweep.Proofs.Sweep.Trace
import CloudSweep.Proofs.Sweep.Units
import CloudSweep.Proofs.Selection.Records
import CloudSweep.Proofs.Sweep.ClusterAccounts
import CloudSweep.Proofs.Sweep.Malformed
import CloudSweep.Proofs.Selection.Cutoff
import CloudSweep.Proofs.Sweep.Cutoff
import CloudSweep.Proofs.Sweep.SubnetAccounts
import CloudSweep.Proofs.Gcloud.Environment
import CloudSweep.Proofs.Sweep.Settled
import CloudSweep.Proofs.Sweep.ReportAccounts
import CloudSweep.Proofs.Sweep.Tolerance
import CloudSweep.Proofs.Text.Segment
import CloudSweep.Proofs.Deletion.Place
import CloudSweep.Proofs.Selection.Cluster
import CloudSweep.Proofs.Sweep.ClusterPlaces
import CloudSweep.Proofs.Settings
import CloudSweep.Proofs.CommandLine.Start
import CloudSweep.Proofs.Catalog.Defects
import CloudSweep.Proofs.Selection.Variants
import CloudSweep.Proofs.Settings.Age
import CloudSweep.Proofs.Time.Calendar
import CloudSweep.Proofs.Text.Digits
import CloudSweep.Proofs.Time.Fields
import CloudSweep.Proofs.Text.Blank
import CloudSweep.Proofs.Time.Rendering
import CloudSweep.Proofs.Time.Reading
import CloudSweep.Proofs.Zone
import CloudSweep.Proofs.Kind
import CloudSweep.Proofs.Sweep.FailedKinds
import CloudSweep.Proofs.Json.Grammar
import CloudSweep.Proofs.Json.Token
import CloudSweep.Proofs.Json.Reader
import CloudSweep.Proofs.Listing.Encoding
import CloudSweep.Proofs.Program.Interpret
import CloudSweep.Proofs.Gcloud.World
import CloudSweep.Proofs.CommandLine.Execution
