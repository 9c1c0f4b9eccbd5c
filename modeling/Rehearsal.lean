import Rehearsal.Engine.Script
import Rehearsal.Ledger.Codec
import Rehearsal.Main
import Rehearsal.Run.Basic
import Rehearsal.Proofs.Ledger.Record
import Rehearsal.Proofs.Run.History
import Rehearsal.Proofs.Run.Waiting
import Rehearsal.Proofs.Run.Working
import Rehearsal.Proofs.Run.Stepping
import Rehearsal.Proofs.Step.Within
import Rehearsal.Proofs.Step.BuiltIn
import Rehearsal.Proofs.Run.Running
import Rehearsal.Proofs.Document.Steps
import Rehearsal.Proofs.Run.Picture
import Rehearsal.Proofs.Document.DryRun
import Rehearsal.Proofs.Run.Timeline
import Rehearsal.Proofs.Run.Timetable
import Rehearsal.Proofs.Document.Obstacle
import Rehearsal.Proofs.Document.Prediction
import Rehearsal.Proofs.Run.Probing
import Rehearsal.Proofs.Suite.Chronicle
import Rehearsal.Proofs.Run.Abreast
import Rehearsal.Proofs.Run.Likeness
import Rehearsal.Proofs.Run.Bracket
import Rehearsal.Proofs.Source.Record
import Rehearsal.Proofs.Source.Settled
import Rehearsal.Proofs.Document.Written
import Rehearsal.Proofs.Document.Growth
import Rehearsal.Proofs.Step.Filling
import Rehearsal.Proofs.Document.Submission
import Rehearsal.Proofs.Document.Targets
import Rehearsal.Proofs.Notebook.Record
import Rehearsal.Proofs.Step.Noting
import Rehearsal.Proofs.Run.Noting
import Rehearsal.Proofs.Suite.Operations
import Rehearsal.Proofs.Document.Installing
import Rehearsal.Proofs.Step.Comparing
import Rehearsal.Proofs.Document.Attribution
import Rehearsal.Proofs.Document.Warnings
import Rehearsal.Proofs.Source.Narrow
import Rehearsal.Proofs.Json.Literals
import Rehearsal.Proofs.Json.Narrow
import Rehearsal.Proofs.Json.RoundTrip
import Rehearsal.Proofs.Json.Faithful
import Rehearsal.Proofs.Ledger.RoundTrip
import Rehearsal.Proofs.Document.RoundTrip
import Rehearsal.Proofs.Path.Components
import Rehearsal.Proofs.Document.Confinement
import Rehearsal.Proofs.Command.Agreement
import Rehearsal.Proofs.Run.Accounting
import Rehearsal.Proofs.Run.Capturing
import Rehearsal.Proofs.Evidence.Naming
import Rehearsal.Proofs.Run.Comparing
import Rehearsal.Proofs.Association
import Rehearsal.Proofs.Form
import Rehearsal.Proofs.Document.Survey
import Rehearsal.Proofs.Document.Locations
import Rehearsal.Proofs.Document.Continuation
import Rehearsal.Proofs.Run.Duration
import Rehearsal.Proofs.Run.Delayed
import Rehearsal.Proofs.Json.Tree
import Rehearsal.Proofs.Source.Objects
import Rehearsal.Proofs.Document.Fields
import Rehearsal.Proofs.Document.Recovery
import Rehearsal.Proofs.Ledger.Tally
import Rehearsal.Proofs.Run.Tracing
import Rehearsal.Proofs.Run.Reliance
import Rehearsal.Proofs.Run.Patience
import Rehearsal.Proofs.Document.Repetition
import Rehearsal.Proofs.Text.Lines
import Rehearsal.Proofs.Ledger.Rendering
