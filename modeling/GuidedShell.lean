import GuidedShell.Main
import GuidedShell.Proofs.Session.Noninterference
import GuidedShell.Proofs.Text.Trim
import GuidedShell.Surface.Buffer
import GuidedShell.Proofs.Session.CorrectionFlow
import GuidedShell.Proofs.Session.Highlight
import GuidedShell.Proofs.Surface.Listing
import GuidedShell.Proofs.Surface.Enter
import GuidedShell.Proofs.Text.Lines
import GuidedShell.Proofs.Utf8.Reads
import GuidedShell.Proofs.Utf8.RoundTrip
import GuidedShell.Proofs.Utf8.Spelling
import GuidedShell.Proofs.Utf8.Ascii
import GuidedShell.Proofs.History.Persistence
import GuidedShell.Proofs.FileSystem.Leads
import GuidedShell.Proofs.FileSystem.Writing
import GuidedShell.Proofs.FilePath.Join
import GuidedShell.Proofs.FileSystem.Tree
import GuidedShell.Proofs.CommandIndex.Scan
import GuidedShell.Proofs.CommandIndex.Lookup
import GuidedShell.Proofs.Session.Log
import GuidedShell.Proofs.Session.Closing
import GuidedShell.Proofs.Session.Reload
import GuidedShell.Proofs.Session.IndexedNames
import GuidedShell.Proofs.Console.HistoryFile
import GuidedShell.Proofs.Session.Exit
import GuidedShell.Proofs.Console.EndOfInput
import GuidedShell.Proofs.FileSystem.Canonical
import GuidedShell.Proofs.Exec.Start
import GuidedShell.Proofs.Session.WorkingDirectory
import GuidedShell.Proofs.Session.FailedLoad
import GuidedShell.Proofs.EditDistance.Edits
import GuidedShell.Command.Factory
import GuidedShell.Strict.Parts
import GuidedShell.Strict.Session
import GuidedShell.Proofs.Strict.Parts
import GuidedShell.Proofs.Strict.Session
import GuidedShell.Proofs.CommandIndex.Known
import GuidedShell.Proofs.CommandIndex.Contents
import GuidedShell.Proofs.CommandIndex.Extensions
import GuidedShell.Proofs.Correction.Rank
import GuidedShell.Proofs.Session.Distinct
import GuidedShell.Proofs.Text.Numeral
import GuidedShell.Proofs.Correction.Reply
import GuidedShell.Proofs.Correction.Selection
import GuidedShell.Proofs.Command.PathNames
import GuidedShell.Proofs.Command.Outcomes
import GuidedShell.Proofs.Text.Capitals
import GuidedShell.Proofs.Text.LowerAscii
import GuidedShell.Proofs.Command.Markers
import GuidedShell.Proofs.History.Lines
import GuidedShell.Proofs.Command.ChangeDirectory
import GuidedShell.Proofs.Session.ListKeys
import GuidedShell.Proofs.Terminal.Hint
import GuidedShell.Proofs.History.Walk
import GuidedShell.Proofs.Session.HistoryKeys
import GuidedShell.Proofs.Terminal.Written
import GuidedShell.Proofs.Console.Transcript
