import PlannerTrials.Main
import PlannerTrials.Proofs.Cli.Command
import PlannerTrials.Proofs.Cli.DryRun
import PlannerTrials.Proofs.Cli.Recorded
import PlannerTrials.Proofs.Config.Arguments
import PlannerTrials.Proofs.Config.Expansion
import PlannerTrials.Proofs.Config.Launch
import PlannerTrials.Proofs.Config.Reference
import PlannerTrials.Proofs.Config.Validation
import PlannerTrials.Proofs.Corpus.Containment
import PlannerTrials.Proofs.Corpus.FirstFault
import PlannerTrials.Proofs.Corpus.Locate
import PlannerTrials.Proofs.Corpus.Selection
import PlannerTrials.Proofs.Csv.Grammar
import PlannerTrials.Proofs.Csv.Layout
import PlannerTrials.Proofs.Csv.Print
import PlannerTrials.Proofs.Csv.Token
import PlannerTrials.Proofs.Files.Names
import PlannerTrials.Proofs.Files.Plain
import PlannerTrials.Proofs.Files.PlainTree
import PlannerTrials.Proofs.Files.Replace
import PlannerTrials.Proofs.Files.View
import PlannerTrials.Proofs.Files.Walk
import PlannerTrials.Proofs.Number.Blank
import PlannerTrials.Proofs.Number.Decimal
import PlannerTrials.Proofs.Number.Fixed
import PlannerTrials.Proofs.Number.Notation
import PlannerTrials.Proofs.Number.Numeral
import PlannerTrials.Proofs.Number.Word
import PlannerTrials.Proofs.Pass.Calls
import PlannerTrials.Proofs.Pass.Effects
import PlannerTrials.Proofs.Pass.Enumeration
import PlannerTrials.Proofs.Pass.Keys
import PlannerTrials.Proofs.Pass.SampleSize
import PlannerTrials.Proofs.Path
import PlannerTrials.Proofs.Path.Steps
import PlannerTrials.Proofs.Plan
import PlannerTrials.Proofs.Report.Balance
import PlannerTrials.Proofs.Report.Chart
import PlannerTrials.Proofs.Report.Domains
import PlannerTrials.Proofs.Report.Group
import PlannerTrials.Proofs.Report.Sums
import PlannerTrials.Proofs.Report.Text
import PlannerTrials.Proofs.Run
import PlannerTrials.Proofs.Storage
import PlannerTrials.Proofs.Storage.Writes
import PlannerTrials.Proofs.Table.Acceptance
import PlannerTrials.Proofs.Table.Layout
import PlannerTrials.Proofs.Table.Read
import PlannerTrials.Proofs.Table.RoundTrip
import PlannerTrials.Proofs.Text.Blank
import PlannerTrials.Proofs.Text.ByteOrder
import PlannerTrials.Proofs.Text.Cells
import PlannerTrials.Proofs.Text.Marks
import PlannerTrials.Proofs.Text.Segments
import PlannerTrials.Proofs.Text.Utf8
