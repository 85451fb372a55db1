import SourceGrade.CommandLine.Run
import SourceGrade.Json.Decode
import SourceGrade.Main
import SourceGrade.Proofs.Batch.Discovery
import SourceGrade.Proofs.Breakdown.Embedding
import SourceGrade.Proofs.CommandLine.Output
import SourceGrade.Proofs.CommandLine.Report
import SourceGrade.Proofs.Disk.FileSystem
import SourceGrade.Proofs.Disk.Planting
import SourceGrade.Proofs.Json.Document
import SourceGrade.Proofs.Report.Unambiguous
import SourceGrade.Proofs.Score.LineEnding
import SourceGrade.Proofs.Workers.Outcome
import SourceGrade.Proofs.Score.LineOrder
import SourceGrade.Proofs.CommandLine.Cosmetic
import SourceGrade.Proofs.Workers.Permits
import SourceGrade.Proofs.Text.Cut
import SourceGrade.Proofs.Signals.Decoding
import SourceGrade.Proofs.CommandLine.Environment
import SourceGrade.Proofs.Signals.Roundtrip
import SourceGrade.Proofs.Batch.Contiguity
import SourceGrade.Proofs.Disk.Preorder
import SourceGrade.Proofs.Score.Exact
import SourceGrade.Proofs.Score.Words
import SourceGrade.Proofs.Language.Table
import SourceGrade.Proofs.Language.Extension
import SourceGrade.Proofs.Score.Agreement
import SourceGrade.Proofs.Breakdown.Casts
import SourceGrade.Proofs.Report.Suggestions
import SourceGrade.Proofs.CommandLine.Jobs
import SourceGrade.Proofs.Disk.Errors
import SourceGrade.Proofs.CommandLine.Skipped
