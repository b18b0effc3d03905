import PipeShell.Main
import PipeShell.Proofs.ExecutionOutcome
import PipeShell.Proofs.ExecutionWiring
import PipeShell.Proofs.PipelineRendering
import PipeShell.Proofs.PipelineRefusals
import PipeShell.Proofs.OpenQuotes
import PipeShell.Proofs.RunRequests
import PipeShell.Proofs.StageReports
import PipeShell.Proofs.HostSimulation
import PipeShell.Proofs.HostTrace
import PipeShell.Proofs.LineExecution
import PipeShell.Proofs.ShellSimulation
import PipeShell.Proofs.ExecutionStages
import PipeShell.Proofs.LineCourse
import PipeShell.Proofs.LineFaults
import PipeShell.Proofs.SessionStatus
import PipeShell.Proofs.LoneBuiltins
import PipeShell.Proofs.PathNames
import PipeShell.Proofs.LaunchedPrograms
import PipeShell.Proofs.SourceLines
import PipeShell.Proofs.SessionRun
import PipeShell.Proofs.SessionTrace
import PipeShell.Proofs.ProgramRun
import PipeShell.Proofs.InterchangeableSources
import PipeShell.Proofs.DumpModes
import PipeShell.Proofs.ProcessReaping
import PipeShell.Proofs.SharedSink
import PipeShell.Proofs.OrderedOutput
import PipeShell.Proofs.NameLookup
import PipeShell.Proofs.BuiltinArguments
import PipeShell.Proofs.SessionEnd
import PipeShell.Proofs.DirectoryChange
import PipeShell.Proofs.ScriptReading
import PipeShell.Proofs.BuiltinChannels
import PipeShell.Proofs.LostOutput
import PipeShell.Proofs.CheckedShell
import PipeShell.Proofs.ConduitRequests
import PipeShell.Proofs.PipelineDump
import PipeShell.Proofs.WaitWords
import PipeShell.Proofs.ProcessWords
import PipeShell.Proofs.StatusRange
