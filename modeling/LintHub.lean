import LintHub.Environment.Callers
import LintHub.Main
import LintHub.Launch.Replay
import LintHub.Proofs.Command.Status
import LintHub.Proofs.Environment.Answers
import LintHub.Proofs.Environment.History
import LintHub.Proofs.Environment.Shared
import LintHub.Proofs.Positions
import LintHub.Proofs.Output.RoundTrip
import LintHub.Proofs.Environment.FastPath
import LintHub.Proofs.Output.Grammar
import LintHub.Proofs.Output.ProseGrammar
import LintHub.Proofs.FileFilter
import LintHub.Proofs.Output.CompactGrammar
import LintHub.Proofs.Report.OneLine
import LintHub.Proofs.Json.Records
import LintHub.Proofs.Output.ResultsGrammar
import LintHub.Proofs.FileGroups
import LintHub.Proofs.IgnoreRule
import LintHub.Proofs.Counts
import LintHub.Proofs.WorkingDir
import LintHub.Proofs.Environment.Pristine
import LintHub.Proofs.Environment.Frame
import LintHub.Proofs.LastName
import LintHub.Proofs.Command.Init
import LintHub.Proofs.StartDirectory
import LintHub.Proofs.Config.Settings
import LintHub.Proofs.Silence
import LintHub.Proofs.Output.Solid
import LintHub.Proofs.SlashStyle
