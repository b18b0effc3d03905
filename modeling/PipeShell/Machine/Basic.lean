import PipeShell.Machine.Program
import PipeShell.Screen

/-!
A machine in memory: its files, the processes that run on it, the pipes between them, and what the
shell on it has open. The streams of a machine are read and written here; a request that has to wait
has no answer yet.
-/
namespace PipeShell.Machine

inductive Stream where
  /-- Gives nothing and takes everything. -/
  | nothing
  | directory
  /-- An open file, by its number. -/
  | source (id : Nat)
  | pipeReading (id : Nat)
  | pipeWriting (id : Nat)
  /-- What the pipelines of a session put out together. -/
  | captured
  | screen (channel : Channel)
  deriving DecidableEq, Repr

structure Source where
  data : ByteArray
  offset : Nat := 0

/-- A running process: what is left of its program, and its streams. -/
structure Process where
  program : Program UInt8
  input : Stream
  output : Stream
  errors : Stream

inductive FirstInput where
  | nothing
  | data (bytes : ByteArray)
  | file (path : String)
  | refused (cause : Fault)

end Machine

structure Machine where
  tree : Machine.FileTree
  /-- The working directory of the shell. -/
  directory : Machine.NodeId
  searchPath : Option String
  /-- The environment of every process, the search path aside. -/
  environment : List (String × String) := []
  firstInput : Machine.FirstInput := .nothing
  /-- Where the last stage of each pipeline writes to. -/
  lastOutput : Machine.Stream := .captured
  /-- Where all processes report errors. -/
  errors : Machine.Stream := .nothing
  /-- How many descriptors the shell may have. -/
  descriptorLimit : Option Nat := none
  launch : Machine.Launcher
  sources : Array Machine.Source := #[]
  /-- The bytes that wait in each pipe. -/
  pipes : Array ByteArray := #[]
  /-- What the shell has open. -/
  handles : List (Handle × Machine.Stream) := []
  nextHandle : Handle := 0
  running : List (ProcessId × Machine.Process) := []
  ended : List (ProcessId × Machine.Fate) := []
  nextProcess : ProcessId := 1000
  captured : ByteArray := ByteArray.empty
  screen : Screen := {}

namespace Machine

def pipeCapacity : Nat := 65536

def hasReader (machine : Machine) (pipe : Nat) : Bool :=
  machine.handles.any (fun entry => entry.2 = .pipeReading pipe) ||
    machine.running.any fun entry => entry.2.input = .pipeReading pipe

def hasWriter (machine : Machine) (pipe : Nat) : Bool :=
  machine.handles.any (fun entry => entry.2 = .pipeWriting pipe) ||
    machine.running.any fun entry =>
      entry.2.output = .pipeWriting pipe || entry.2.errors = .pipeWriting pipe

def streamOf (machine : Machine) (handle : Handle) : Stream :=
  (machine.handles.lookup handle).getD .nothing

def openHandle (machine : Machine) (stream : Stream) : Handle × Machine :=
  (machine.nextHandle, { machine with
    handles := machine.handles ++ [(machine.nextHandle, stream)]
    nextHandle := machine.nextHandle + 1 })

/-- Reads up to `limit` bytes of a stream. A pipe makes its reader wait while it is empty and has a
writer. -/
def readStream (machine : Machine) (stream : Stream) (limit : Nat) :
    Option (Except OsError ByteArray × Machine) :=
  match stream with
  | .nothing => some (.ok ByteArray.empty, machine)
  | .directory => some (.error .isDirectory, machine)
  | .source id =>
    match machine.sources[id]? with
    | none => some (.error .inputOutput, machine)
    | some source =>
      let data := source.data.extract source.offset (source.offset + limit)
      let read := { source with offset := source.offset + data.size }
      some (.ok data, { machine with sources := machine.sources.set! id read })
  | .pipeReading id =>
    match machine.pipes[id]? with
    | none => some (.error .inputOutput, machine)
    | some waiting =>
      if waiting.isEmpty then
        if machine.hasWriter id then none else some (.ok ByteArray.empty, machine)
      else
        some (.ok (waiting.extract 0 limit), { machine with
          pipes := machine.pipes.set! id (waiting.extract limit waiting.size) })
  | .pipeWriting _ | .captured | .screen _ => some (.error .inputOutput, machine)

def unreadStream (machine : Machine) (stream : Stream) (count : Nat) : Machine :=
  match stream with
  | .source id =>
    { machine with sources := machine.sources.modify id fun source =>
        { source with offset := source.offset - count } }
  | _ => machine

def sizeOf (machine : Machine) : Stream → Option Nat
  | .source id => (machine.sources[id]?).map fun source => source.data.size
  | _ => none

/-- The answer to a write: all is written, a rest has to wait, or no one can read it. -/
inductive Written where
  | all
  | rest (data : ByteArray)
  | broken

def writeStream (machine : Machine) (stream : Stream) (data : ByteArray) : Written × Machine :=
  match stream with
  | .pipeWriting id =>
    if !machine.hasReader id then (.broken, machine)
    else match machine.pipes[id]? with
      | none => (.broken, machine)
      | some waiting =>
        let room := pipeCapacity - waiting.size
        let grown := { machine with
          pipes := machine.pipes.set! id (waiting ++ data.extract 0 room) }
        (if data.size ≤ room then .all else .rest (data.extract room data.size), grown)
  | .captured => (.all, { machine with captured := machine.captured ++ data })
  | .screen channel =>
    (.all, { machine with screen := (machine.screen.write channel data).2 })
  | _ => (.all, machine)

end Machine

end PipeShell
