import Linewise.Json.Reader
import Linewise.LineStream
import Linewise.Main
import Linewise.Proofs.Reading
import Linewise.Proofs.ReferenceRun
import Linewise.Proofs.PlainCodecs
import Linewise.Proofs.LinesOfText
import Linewise.Proofs.SourceSafety
import Linewise.Proofs.FileNames
import Linewise.Proofs.Logging
import Linewise.Proofs.CommandWork
import Linewise.Proofs.CommandOutcome
import Linewise.Proofs.Utf8Canonical
import Linewise.Proofs.LineFormat
import Linewise.Proofs.SharedReading
import Linewise.Proofs.IntegerText
import Linewise.Proofs.NumbersOutput
import Linewise.Proofs.SettingsPriority
import Linewise.Proofs.AcceptedSettings
import Linewise.Proofs.FailedOutput
import Linewise.Proofs.ControlSequences
import Linewise.Proofs.LinesOutput
import Linewise.Proofs.Places
import Linewise.Proofs.IntegerGrammar
import Linewise.Proofs.TouchedFiles
import Linewise.Proofs.Service
import Linewise.Proofs.AcceptedLines
import Linewise.Proofs.LogTrace
import Linewise.Proofs.RaisedCalls
import Linewise.Proofs.RunCourse
import Linewise.Proofs.ReadingPaths
import Linewise.Proofs.Padding
import Linewise.Proofs.QuotedText
import Linewise.Proofs.Diagnostics
import Linewise.Proofs.DiagnosticLine
import Linewise.Proofs.FailureViews
import Linewise.Proofs.ReportRecords
import Linewise.Proofs.ArgumentLiterals
import Linewise.Proofs.JsonGrammar
import Linewise.Proofs.JsonText
import Linewise.Proofs.ReportFile
import Linewise.Proofs.RepeatedRuns
import Linewise.Proofs.FullPaths
import Linewise.Proofs.ChannelHistory
import Linewise.Proofs.ReleasedChannel
