import PipeShell.Conduit
import PipeShell.Ending
import PipeShell.Lookup
import PipeShell.Pipeline

/-!
Running a pipeline. All pipes are opened, the stages are started from the first to the last, every
end the shell still owns is closed, and then every started process is waited for. A stage whose
program cannot be found or run counts as ended at once; any other failure to start stops the run.
When a wait fails the others are still made, and the run gives no completion.
-/
namespace PipeShell

structure Stage where
  command : Command
  target : Target
  deriving DecidableEq, Repr

/-- How one stage ended, with its position counted from 1. -/
structure StageEnd where
  position : Nat
  name : String
  ending : Ending
  deriving DecidableEq, Repr

structure Completion where
  stages : List StageEnd
  deriving DecidableEq, Repr

namespace Completion

/-- The status of a pipeline is that of its last stage. -/
def status (completion : Completion) : Int32 :=
  match completion.stages.getLast? with
  | some stage => stage.ending.code
  | none => 0

def neverRan (completion : Completion) : List StageEnd :=
  completion.stages.filter fun stage => stage.ending.neverRan

end Completion

inductive RunError where
  | pipe (cause : OsError)
  | start (name : String) (position : Nat) (cause : Fault)
  | wait (name : String) (position : Nat) (cause : Fault)
  deriving DecidableEq, Repr

namespace RunError

def message : RunError → String
  | .pipe cause => "cannot create pipe: " ++ cause.symbol ++ ": " ++ cause.text
  | .start name position cause =>
    "cannot spawn `" ++ name ++ "` (stage " ++ toString position ++ "): " ++ cause.message
  | .wait name position cause =>
    "cannot wait for `" ++ name ++ "` (stage " ++ toString position ++ "): " ++ cause.message

def chain : RunError → String
  | .pipe cause => message (.pipe cause) ++ ": " ++ cause.symbol ++ ": " ++ cause.text
  | .start name position cause => message (.start name position cause) ++ ": " ++ cause.message
  | .wait name position cause => message (.wait name position cause) ++ ": " ++ cause.message

end RunError

namespace Execution

inductive Attempt where
  | running (process : ProcessId)
  | ended (ending : Ending)
  deriving DecidableEq, Repr

/-- The ending of a stage whose start failed in this way, if the others may still run. -/
def endingOfFault : Fault → Option Ending
  | .os .noSuchEntry => some .notFound
  | .os .accessDenied | .os .notPermitted | .os .execFormat => some .notExecutable
  | _ => none

structure Plumbing where
  input : Option Handle
  output : Option Handle
  pipes : Conduits
  deriving DecidableEq, Repr

namespace Plumbing

def held (plumbing : Plumbing) : List Handle :=
  plumbing.pipes.held ++ plumbing.input.toList ++ plumbing.output.toList

/-- Hands out what a stage reads from: the outer input for the first stage, else a pipe. -/
def takeInput (plumbing : Plumbing) (stage : Nat) : Option Handle × Plumbing :=
  if stage = 0 then (plumbing.input, { plumbing with input := none })
  else
    let taken := plumbing.pipes.takeReading stage
    (taken.1, { plumbing with pipes := taken.2 })

def takeOutput (plumbing : Plumbing) (stage last : Nat) : Option Handle × Plumbing :=
  if stage = last then (plumbing.output, { plumbing with output := none })
  else
    let taken := plumbing.pipes.takeWriting stage
    (taken.1, { plumbing with pipes := taken.2 })

end Plumbing

variable {σ : Type}

/-- Starts one stage with its two streams, and closes them on the shell's side whatever comes of it.
Built-ins run on their own only, so in a pipeline their names refer to no program. -/
def startStage (system : System σ) (stage : Stage) (input output : Option Handle) (world : σ) :
    Except Fault Attempt × σ :=
  let launched : Except Fault Attempt × σ := match stage.target with
    | .builtin _ | .unknown => (.ok (.ended .notFound), world)
    | .external path =>
      match system.start ⟨path, stage.command.name, stage.command.args, input, output⟩ world with
      | (.ok process, world) => (.ok (.running process), world)
      | (.error cause, world) =>
        match endingOfFault cause with
        | some ending => (.ok (.ended ending), world)
        | none => (.error cause, world)
  (launched.1, Conduits.closeAll system (input.toList ++ output.toList) launched.2)

structure Started (σ : Type) where
  launched : List (String × Attempt)
  failure : Option RunError
  plumbing : Plumbing
  world : σ

def startFrom (system : System σ) (last : Nat) (index : Nat) (plumbing : Plumbing) (world : σ) :
    List Stage → Started σ
  | [] => ⟨[], none, plumbing, world⟩
  | stage :: rest =>
    let input := plumbing.takeInput index
    let output := input.2.takeOutput index last
    match startStage system stage input.1 output.1 world with
    | (.error cause, world) =>
      ⟨[], some (.start stage.command.name (index + 1) cause), output.2, world⟩
    | (.ok launch, world) =>
      let later := startFrom system last (index + 1) output.2 world rest
      { later with launched := (stage.command.name, launch) :: later.launched }

structure Waited (σ : Type) where
  ended : List StageEnd
  failure : Option RunError
  world : σ

/-- Waits for the launched stages in order; `position` is that of the first. A stage whose wait fails
has no ending, and those after it are waited for all the same. -/
def waitFrom (system : System σ) (position : Nat) (world : σ) : List (String × Attempt) → Waited σ
  | [] => ⟨[], none, world⟩
  | (name, .ended ending) :: rest =>
    let later := waitFrom system (position + 1) world rest
    { later with ended := ⟨position, name, ending⟩ :: later.ended }
  | (name, .running process) :: rest =>
    match system.wait process world with
    | (.ok word, world) =>
      let later := waitFrom system (position + 1) world rest
      { later with ended := ⟨position, name, .ofWaitWord word⟩ :: later.ended }
    | (.error cause, world) =>
      let later := waitFrom system (position + 1) world rest
      { later with failure := some (.wait name position cause) }

/-- Runs the stages between the outer streams, which are owned by the run from here on. -/
def run (system : System σ) (stages : List Stage) (outer : OuterStreams) (world : σ) :
    Except RunError Completion × σ :=
  match Conduits.openFor system stages.length world with
  | (.error cause, world) =>
    (.error (.pipe cause), Conduits.closeAll system [outer.input, outer.output] world)
  | (.ok pipes, world) =>
    let started := startFrom system (stages.length - 1) 0
      ⟨some outer.input, some outer.output, pipes⟩ world stages
    let closed := Conduits.closeAll system started.plumbing.held started.world
    let finished := waitFrom system 1 closed started.launched
    match started.failure.or finished.failure with
    | some failure => (.error failure, finished.world)
    | none => (.ok ⟨finished.ended⟩, finished.world)

end Execution

end PipeShell
