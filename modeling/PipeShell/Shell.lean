import PipeShell.Builtin.Run
import PipeShell.Execution
import PipeShell.LineSource
import PipeShell.Settings

/-!
The shell itself: one line at a time is read as a pipeline, printed if the settings ask for it, and
carried out as a built-in or run as a set of processes; the loop does so until the session ends.
-/
namespace PipeShell.Shell

open ShellM

variable {σ : Type}

inductive Aborted where
  | streams (cause : Fault)
  | run (cause : RunError)
  deriving DecidableEq, Repr

def Aborted.chain : Aborted → String
  | .streams cause => cause.message
  | .run cause => cause.chain

/-- What a line says when it is no pipeline: blank lines get a warning. -/
def refusal : ParseError → String
  | .noCommands => "warning: " ++ ParseError.noCommands.message
  | cause => "error: " ++ cause.message

def complaint (stage : StageEnd) : String :=
  let reason := if stage.ending = .notExecutable then "cannot execute" else "command not found"
  "dsh: " ++ stage.name ++ ": " ++ reason

def isLoneExit (pipeline : Pipeline) : Bool :=
  pipeline.isSingle && Builtin.ofName? pipeline.first.name = some .exit

/-- The stages of a pipeline, with what their names refer to now. -/
def stagesOf (system : System σ) (world : σ) (pipeline : Pipeline) : List Stage :=
  pipeline.commands.map fun command =>
    ⟨command, Lookup.target system world (Lookup.searchPathOf system world) command.name⟩

def runStages (system : System σ) (stages : List Stage) (world : σ) :
    Except Aborted Completion × σ :=
  match system.openStreams world with
  | (.error cause, world) => (.error (.streams cause), world)
  | (.ok outer, world) =>
    match Execution.run system stages outer world with
    | (.ok completion, world) => (.ok completion, world)
    | (.error cause, world) => (.error (.run cause), world)

def reportFrom (host : Host σ) : List StageEnd → ShellM σ Unit
  | [] => return ()
  | stage :: rest => do
    printLine host .err (complaint stage)
    reportFrom host rest

def conclude (host : Host σ) : Except Aborted Completion → ShellM σ Unit
  | .ok completion => do
    reportFrom host completion.neverRan
    remember completion.status
  | .error cause => do
    printLine host .out ("error: command execution failed: " ++ cause.chain)
    remember 1

/-- Runs a pipeline as processes and records its status. The shell's own text is flushed first, so
that it stands before what the processes write. -/
def runProcesses (host : Host σ) (stages : List Stage) : ShellM σ Unit := do
  onWorld (host.flush .out)
  let result ← attempt (runStages host.toSystem stages)
  conclude host result

/-- Carries out a pipeline: a built-in that stands alone, or a run of processes. -/
def carryOut (host : Host σ) (pipeline : Pipeline) : ShellM σ Unit := do
  let stages := stagesOf host.toSystem (← get).world pipeline
  match stages with
  | [⟨command, .builtin kind⟩] =>
    let status ← Builtin.run host kind command.args
    remember status
  | _ => runProcesses host stages

/-- Carries out one line. A lone `exit` is never printed, and it is carried out in every mode. -/
def runLine (host : Host σ) (settings : Settings) (line : String) : ShellM σ Unit := do
  match Pipeline.ofLine settings.maxCommands line with
  | .error cause => printLine host .out (refusal cause)
  | .ok pipeline =>
    if isLoneExit pipeline then carryOut host pipeline
    else match settings.dump with
      | .off => carryOut host pipeline
      | .beforeRunning => do
        printLine host .out pipeline.dump
        carryOut host pipeline
      | .only => printLine host .out pipeline.dump

/-- Asks for a line: the prompt counts as shown. -/
def showPrompt (settings : Settings) : ShellM σ Unit :=
  modify fun state => { state with prompts := state.prompts ++ [settings.prompt] }

def farewell (host : Host σ) : ShellM σ Int32 := do
  printLine host .out "exiting..."
  onWorld (host.flush .out)
  return 0

/-- Carries out the lines of a source while the session runs; its status is 0 however it ends. -/
def loop (host : Host σ) (settings : Settings) : LineSource.Answers → ShellM σ Int32
  | [] => do
    if (← get).running then showPrompt settings
    farewell host
  | answer :: rest => do
    if (← get).running then
      showPrompt settings
      match answer with
      | .error fault => throw fault
      | .ok line =>
        runLine host settings line
        loop host settings rest
    else farewell host

end PipeShell.Shell
