import JobMatrix.CommandLine.Perform
import JobMatrix.Declaration.File
import JobMatrix.History.Document
import JobMatrix.History.Record
import JobMatrix.Host.Machine.Basic
import JobMatrix.Host.Machine.Builtin
import JobMatrix.Host.Machine.Image
import JobMatrix.Host.Machine.Interpret
import JobMatrix.Host.Machine.Step
import JobMatrix.Main
import JobMatrix.Project
import JobMatrix.Text.Width
import JobMatrix.Settings
import JobMatrix.Yaml.Write
import JobMatrix.Run.Course
import JobMatrix.Run.Execute
import JobMatrix.Run.Pool
import JobMatrix.Run.Token
import JobMatrix.Host.Shell.Arithmetic
import JobMatrix.Host.Shell.Condition
import JobMatrix.Host.Shell.Expand
import JobMatrix.Host.Shell.Format
import JobMatrix.Host.Shell.State
import JobMatrix.Host.Shell.Parse
import JobMatrix.Proofs.Dict
import JobMatrix.Proofs.Scalar
import JobMatrix.Proofs.Expansion
import JobMatrix.Proofs.Additions
import JobMatrix.Proofs.Product
import JobMatrix.Proofs.Interference
import JobMatrix.Proofs.Declaration
import JobMatrix.Proofs.Token
import JobMatrix.Proofs.Lane
import JobMatrix.Proofs.JobShape
import JobMatrix.Proofs.Solo
import JobMatrix.Proofs.Pool
import JobMatrix.Proofs.Progress
import JobMatrix.Proofs.Collection
import JobMatrix.Proofs.FailFast
import JobMatrix.Proofs.Independence
import JobMatrix.Proofs.Lifecycle
import JobMatrix.Proofs.Deadline
import JobMatrix.Proofs.Course
import JobMatrix.Proofs.Report
import JobMatrix.Proofs.Verdict
import JobMatrix.Proofs.Announcement
import JobMatrix.Proofs.Observers
import JobMatrix.Proofs.Environment
import JobMatrix.Proofs.Containment
import JobMatrix.Proofs.Acceptance
import JobMatrix.Proofs.Instantiation
import JobMatrix.Proofs.Occurrence
import JobMatrix.Proofs.Decimal
import JobMatrix.Proofs.Store
import JobMatrix.Proofs.Integrity
import JobMatrix.Proofs.RunRows
import JobMatrix.Proofs.Recording
import JobMatrix.Proofs.Numbering
import JobMatrix.Proofs.Finished
import JobMatrix.Proofs.Keys
import JobMatrix.Proofs.JsonText
import JobMatrix.Proofs.ReadBack
import JobMatrix.Proofs.Aggregation
import JobMatrix.Proofs.FileTree
import JobMatrix.Proofs.Settings
import JobMatrix.Proofs.Pattern
import JobMatrix.Proofs.FastPath
import JobMatrix.Proofs.RoundTrip
import JobMatrix.Proofs.Identity
import JobMatrix.Proofs.Trigger
