import ContestJudge.Case.Tree
import ContestJudge.CommandLine.Arguments
import ContestJudge.CommandLine.Execution
import ContestJudge.Console.Line
import ContestJudge.Decimal.Positional
import ContestJudge.Document.Decode
import ContestJudge.Document.Moment
import ContestJudge.Document.Seconds
import ContestJudge.FileTree.System
import ContestJudge.Grading.Solution
import ContestJudge.Grading.Validator
import ContestJudge.Json.Printer
import ContestJudge.Json.Reader
import ContestJudge.Machine.Launched
import ContestJudge.Machine.Program
import ContestJudge.Machine.Run
import ContestJudge.Main
import ContestJudge.Path.Basic
import ContestJudge.Problem.Cases
import ContestJudge.Problem.Convention
import ContestJudge.Program.Build
import ContestJudge.Sandbox.Local
import ContestJudge.Sandbox.Playback
import ContestJudge.Session.Checking
import ContestJudge.Settings.Override
import ContestJudge.Settings.Starter
import ContestJudge.Shell.Evaluation
import ContestJudge.ShellWords.Quote
import ContestJudge.Template.Arguments
import ContestJudge.Template.Basic
import ContestJudge.Proofs.Console.Summary
import ContestJudge.Proofs.Exchange.Captured
import ContestJudge.Proofs.Exchange.Completion
import ContestJudge.Proofs.Exchange.Feeding
import ContestJudge.Proofs.Exchange.HeldOpen
import ContestJudge.Proofs.Exchange.Resolution
import ContestJudge.Proofs.Glob.Matching
import ContestJudge.Proofs.Grading.Acceptance
import ContestJudge.Proofs.Grading.Comparison
import ContestJudge.Proofs.Grading.Disposal
import ContestJudge.Proofs.Grading.Elapsed
import ContestJudge.Proofs.Grading.HeldOpen
import ContestJudge.Proofs.Grading.Limits
import ContestJudge.Proofs.Path.Inside
import ContestJudge.Proofs.Path.Normal
import ContestJudge.Proofs.Problem.Discovery
import ContestJudge.Proofs.Problem.Faults
import ContestJudge.Proofs.Problem.Relocation
import ContestJudge.Proofs.Process.Handle
import ContestJudge.Proofs.Program.Copies
import ContestJudge.Proofs.Sandbox.LinksKept
import ContestJudge.Proofs.Session.Contents
import ContestJudge.Proofs.Session.Counting
import ContestJudge.Proofs.Session.Details
import ContestJudge.Proofs.Session.Headers
import ContestJudge.Proofs.Session.Judging
import ContestJudge.Proofs.Session.Planning
import ContestJudge.Proofs.Session.Transcript
import ContestJudge.Proofs.ShellWords.Rules
import ContestJudge.Proofs.Template.Patterns
import ContestJudge.Proofs.Verdict.Feedback
import ContestJudge.Proofs.Verdict.Severity
