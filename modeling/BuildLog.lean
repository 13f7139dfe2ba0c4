import BuildLog.CacheEntry
import BuildLog.Detection
import BuildLog.Arguments
import BuildLog.CommandFilter
import BuildLog.Configuration.Basic
import BuildLog.Configuration.Document
import BuildLog.Configuration.Location
import BuildLog.Main
import BuildLog.Proofs.BasenamePattern.Acceptance
import BuildLog.Proofs.CommandLine.Grammar
import BuildLog.Proofs.CommandLine.Tokenize
import BuildLog.Proofs.Detection.Accounting
import BuildLog.Proofs.Scan.Lines
import BuildLog.Proofs.Scan.Lossy
import BuildLog.Proofs.Scan.LineEnds
import BuildLog.Proofs.Scan.Statistics
import BuildLog.Proofs.Json.Tokens
import BuildLog.Proofs.Json.Value
import BuildLog.Proofs.Report.Json
import BuildLog.Proofs.BasenamePattern.Exclusion
import BuildLog.Proofs.Detection.Order
import BuildLog.Proofs.Detection.DottedVersion
import BuildLog.Proofs.Detection.Suffix
import BuildLog.Proofs.Detection.LongestName
import BuildLog.Proofs.Detection.Directory
import BuildLog.Proofs.Program.Outcome
import BuildLog.Proofs.CommandLine.Writable
import BuildLog.Proofs.Scan.Concatenation
import BuildLog.Proofs.Scan.LineByLine
import BuildLog.Proofs.Detection.LetterCase
import BuildLog.Proofs.Scan.BrokenLog
import BuildLog.Proofs.Scan.Filter
import BuildLog.Proofs.Report.Sink
import BuildLog.Proofs.Report.Text
import BuildLog.Proofs.Report.Compilers
import BuildLog.Proofs.Report.EntryLines
import BuildLog.Proofs.Configuration.Defects
import BuildLog.Proofs.Configuration.Scanner
import BuildLog.Proofs.Detection.TripletLimit
import BuildLog.Proofs.Configuration.Precedence
import BuildLog.Proofs.Configuration.Written
import BuildLog.Proofs.Arguments.AnyOrder
