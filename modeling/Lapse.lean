import Lapse.Main
import Lapse.Regex.First
import Lapse.Proofs.Path.Absolute
import Lapse.Proofs.Path.Order
import Lapse.Proofs.Scan.Files
import Lapse.Proofs.Matcher
import Lapse.Proofs.Scan.Findings
import Lapse.Proofs.Scan.Verdict
import Lapse.Proofs.Regex.Reading
import Lapse.Proofs.DateLayout
import Lapse.Proofs.Regex.FirstWay
import Lapse.Proofs.CommentStyle.Parts
import Lapse.Proofs.CommentStyle.DefaultPattern
import Lapse.Proofs.CommentStyle.ByHand
import Lapse.Proofs.Regex.Case
import Lapse.Proofs.Regex.Suffix
import Lapse.Proofs.CommentStyle.Frame
import Lapse.Proofs.CommentStyle.Malformed
import Lapse.Proofs.CommentStyle.Opener
import Lapse.Proofs.Calendar.Digits
import Lapse.Proofs.Calendar.DayNumber
import Lapse.Proofs.DateLayout.RoundTrip
import Lapse.Proofs.Text.Lines
import Lapse.Proofs.Matcher.LineByLine
import Lapse.Proofs.Scan.Collected
import Lapse.Proofs.Regex.Dissolve
import Lapse.Proofs.Regex.Commute
import Lapse.Proofs.Regex.PlainGroup
import Lapse.Proofs.CommentStyle.PlainGroup
import Lapse.Proofs.Toml.Quoted
import Lapse.Proofs.Toml.Document
import Lapse.Proofs.FileTree.Write
import Lapse.Proofs.Path.Text
import Lapse.Proofs.Settings.RoundTrip
import Lapse.Proofs.Json.RoundTrip
import Lapse.Proofs.Calendar.RoundTrip
import Lapse.Proofs.Calendar.Order
import Lapse.Proofs.Report.RoundTrip
import Lapse.Proofs.CommandLine.Given
import Lapse.Proofs.CommandLine.Precedence
import Lapse.Proofs.Scan.TextPaths
import Lapse.Proofs.CommandLine.ExitCode
import Lapse.Proofs.CommandLine.OutputFile
import Lapse.Proofs.DateLayout.Accepted
import Lapse.Proofs.DateLayout.Pieces
import Lapse.Proofs.Policy
import Lapse.Proofs.Calendar.Age
import Lapse.Proofs.Scan.Inputs
import Lapse.Proofs.Scan.Filters
import Lapse.Proofs.CommentStyle.EmptyWords
import Lapse.Proofs.CommentStyle.GroupOrder
import Lapse.Proofs.CommentStyle.LetterCase
import Lapse.Proofs.Text.Utf8
import Lapse.Proofs.Report.Counts
import Lapse.Proofs.Report.Lines
import Lapse.Proofs.Path.Ancestors
import Lapse.Proofs.Settings.Source
import Lapse.Proofs.CommandLine.Init
import Lapse.Proofs.Scan.Binary
import Lapse.Proofs.CommentStyle.Alternation
