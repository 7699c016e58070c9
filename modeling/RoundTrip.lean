import RoundTrip.Buffers
import RoundTrip.Bytes.Digest
import RoundTrip.Bytes.Mismatch
import RoundTrip.Bytes.Region
import RoundTrip.Cell
import RoundTrip.Chunks
import RoundTrip.Clock
import RoundTrip.Codec
import RoundTrip.CommandLine.Invocation
import RoundTrip.CommandLine.Listing
import RoundTrip.CommandLine.Method
import RoundTrip.CommandLine.Options
import RoundTrip.CommandLine.Parse
import RoundTrip.CommandLine.Words
import RoundTrip.Console
import RoundTrip.Context
import RoundTrip.Fault
import RoundTrip.FileSystem
import RoundTrip.Input
import RoundTrip.IoFault
import RoundTrip.LibraryDir
import RoundTrip.Loader
import RoundTrip.Native.Algorithm
import RoundTrip.Native.Call
import RoundTrip.Native.Scripted
import RoundTrip.Native.StandIn
import RoundTrip.Notice
import RoundTrip.ObjectFile.Header
import RoundTrip.ObjectFile.Segments
import RoundTrip.PathToken
import RoundTrip.Plan
import RoundTrip.Report.Event
import RoundTrip.Report.Sink
import RoundTrip.Session
import RoundTrip.Settings
import RoundTrip.Step
import RoundTrip.Sweep
import RoundTrip.Tally
import RoundTrip.Text.Blank
import RoundTrip.Text.Figure
import RoundTrip.Text.Hex
import RoundTrip.Text.Number
import RoundTrip.Text.Plain
import RoundTrip.Text.Quoted
import RoundTrip.Text.Unseen
import RoundTrip.Text.Utf8
import RoundTrip.Main
import RoundTrip.Proofs.StepLogic
import RoundTrip.Proofs.HostMirror
import RoundTrip.Proofs.ChunkCover
import RoundTrip.Proofs.Reading
import RoundTrip.Proofs.CellSteps
import RoundTrip.Proofs.CellMirror
import RoundTrip.Proofs.CellConditions
import RoundTrip.Proofs.CallTrace
import RoundTrip.Proofs.CallContract
import RoundTrip.Proofs.CellRounds
import RoundTrip.Proofs.CellCalls
import RoundTrip.Proofs.SweepMirror
import RoundTrip.Proofs.PlanOrder
import RoundTrip.Proofs.SweepReports
import RoundTrip.Proofs.SweepRounds
import RoundTrip.Proofs.VerificationSound
import RoundTrip.Proofs.Ownership
import RoundTrip.Proofs.SetupOrder
import RoundTrip.Proofs.Leftovers
import RoundTrip.Proofs.SweepFailure
import RoundTrip.Proofs.Lossless
import RoundTrip.Proofs.StandInLossless
import RoundTrip.Proofs.Completion
import RoundTrip.Proofs.ConfigurationFaults
import RoundTrip.Proofs.CellBounds
import RoundTrip.Proofs.BriefSweeps
import RoundTrip.Proofs.PageReports
import RoundTrip.Proofs.ReadableReports
import RoundTrip.Proofs.DisplayLevels
import RoundTrip.Proofs.SteadyReading
import RoundTrip.Proofs.StatelessCells
import RoundTrip.Proofs.SweepCourses
import RoundTrip.Proofs.StandInStateless
import RoundTrip.Proofs.SweepParts
import RoundTrip.Proofs.SweepAttempts
import RoundTrip.Proofs.MethodCells
import RoundTrip.Proofs.CellDelivery
import RoundTrip.Proofs.Delivery
import RoundTrip.Proofs.RunLedgers
import RoundTrip.Proofs.FileRuns
import RoundTrip.Proofs.ExitStatus
import RoundTrip.Proofs.TallyHistory
import RoundTrip.Proofs.Numerals
import RoundTrip.Proofs.MethodGrammar
import RoundTrip.Proofs.CellTrips
import RoundTrip.Proofs.UntimedCells
import RoundTrip.Proofs.ReportedSizes
import RoundTrip.Proofs.OfferedRoom
import RoundTrip.Proofs.CompletedWords
import RoundTrip.Proofs.CommandReading
import RoundTrip.Proofs.AttachedLevel
import RoundTrip.Proofs.DigestPlaces
import RoundTrip.Proofs.FirstDifference
import RoundTrip.Proofs.DirectoryNames
