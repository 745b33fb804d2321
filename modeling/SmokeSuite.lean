import SmokeSuite.Text.Blank
import SmokeSuite.Text.Line
import SmokeSuite.Text.Utf8
import SmokeSuite.Text.Quoted
import SmokeSuite.Text.Substitution
import SmokeSuite.Decimal.Binary64
import SmokeSuite.Json.Writer
import SmokeSuite.Json.Reader
import SmokeSuite.Duration.Reader
import SmokeSuite.Instant
import SmokeSuite.Environment.Dotenv
import SmokeSuite.Expectation
import SmokeSuite.Tally
import SmokeSuite.Glob.Set
import SmokeSuite.Yaml.Document
import SmokeSuite.Yaml.Value
import SmokeSuite.Suite.Reader
import SmokeSuite.Suite.Validation
import SmokeSuite.Suite.Builtin
import SmokeSuite.Suite.Schema
import SmokeSuite.Report.Human
import SmokeSuite.Report.Record
import SmokeSuite.Roster
import SmokeSuite.CommandLine.Verbosity
import SmokeSuite.CommandLine.Reader
import SmokeSuite.SearchPath
import SmokeSuite.Environment.Variables
import SmokeSuite.Main
import SmokeSuite.Proofs.Glob.Matching
import SmokeSuite.Proofs.Roster.Order
import SmokeSuite.Proofs.Roster.Selection
import SmokeSuite.Proofs.Roster.History
import SmokeSuite.Proofs.Tally.Counting
import SmokeSuite.Proofs.Roster.Run
import SmokeSuite.Proofs.Check.Steady
import SmokeSuite.Proofs.Check.Failure
import SmokeSuite.Proofs.Suite.ExitCode
import SmokeSuite.Proofs.Check.Description
import SmokeSuite.Proofs.Suite.Plan
import SmokeSuite.Proofs.Decimal.Whole
import SmokeSuite.Proofs.Json.RoundTrip
import SmokeSuite.Proofs.Report.Recovery
import SmokeSuite.Proofs.Execution.Failure
import SmokeSuite.Proofs.Yaml.Decoding
import SmokeSuite.Proofs.Suite.Decoding
import SmokeSuite.Proofs.Suite.RoundTrip
import SmokeSuite.Proofs.Json.Validity
import SmokeSuite.Proofs.Schema.Shape
import SmokeSuite.Proofs.Suite.Validation
import SmokeSuite.Proofs.Schema.Suite
import SmokeSuite.Proofs.Text.Trimming
import SmokeSuite.Proofs.Text.Lines
import SmokeSuite.Proofs.Environment.Dotenv
import SmokeSuite.Proofs.Environment.Layout
import SmokeSuite.Proofs.Environment.Layers
import SmokeSuite.Proofs.Exclusion.Rewriting
import SmokeSuite.Proofs.Text.Substitution
import SmokeSuite.Proofs.Exclusion.Reason
import SmokeSuite.Proofs.Exclusion.UnusedNames
import SmokeSuite.Proofs.Suite.Faults
import SmokeSuite.Proofs.Tally.Addition
import SmokeSuite.Proofs.Tally.Marking
import SmokeSuite.Proofs.SearchPath.Order
import SmokeSuite.Proofs.Check.Version
import SmokeSuite.Proofs.Check.OneLine
import SmokeSuite.Proofs.Report.Lines
import SmokeSuite.Proofs.Report.Colours
import SmokeSuite.Proofs.Tally.Listing
import SmokeSuite.Proofs.Execution.Tools
