import StyleScan.Main
import StyleScan.Proofs.Lexical.Comment
import StyleScan.Proofs.Lexical.LineBoundary
import StyleScan.Proofs.Lexical.Invariant
import StyleScan.Proofs.Lexical.Hidden
import StyleScan.Proofs.Lexical.Nesting
import StyleScan.Proofs.Scan.Origin
import StyleScan.Proofs.Scan.Independence
import StyleScan.Proofs.Scan.LineBoundary
import StyleScan.Proofs.Scan.LineText
import StyleScan.Proofs.Scan.LineEnding
import StyleScan.Proofs.Scan.Hidden
import StyleScan.Proofs.Scan.OpenComment
import StyleScan.Proofs.Scan.SourceLine
import StyleScan.Proofs.Scan.Line
import StyleScan.Proofs.Rule.LineWidth
import StyleScan.Proofs.Rule.StatementCount
import StyleScan.Proofs.Rule.StatementSpan
import StyleScan.Proofs.Rule.MethodLength
import StyleScan.Proofs.Rule.WordLength
import StyleScan.Proofs.Rule.Separator
import StyleScan.Proofs.Rule.TrailingComment
import StyleScan.Proofs.Rule.WordSource
import StyleScan.Proofs.Rule.FileLength
import StyleScan.Proofs.Rule.Fresh
import StyleScan.Proofs.Rule.Selection
import StyleScan.Proofs.Settings.Defaults
import StyleScan.Proofs.Stream.Schedule
import StyleScan.Proofs.Stream.Transparency
import StyleScan.Proofs.Encoding.RoundTrip
import StyleScan.Proofs.Encoding.Utf32
import StyleScan.Proofs.Project.Spelling
import StyleScan.Proofs.Project.Walk
import StyleScan.Proofs.Project.Preorder
import StyleScan.Proofs.Check.Verdict
import StyleScan.Proofs.Report.RoundTrip
import StyleScan.Proofs.Analyzer.PlainSettings
import StyleScan.Proofs.Analyzer.Relocation
