import PipeShell.Machine.Loader
import PipeShell.Machine.Schedule

/-!
The machine as the surroundings of a shell: its system calls, and its screen as the terminal.
-/
namespace PipeShell.Machine

def hasNul (text : String) : Bool := text.contains '\x00'

def infoOf : Node → FileInfo
  | .file mode _ => ⟨true, mode⟩
  | .directory _ _ => ⟨false, 0o755⟩
  | .link _ => ⟨false, 0o777⟩
  | .nullDevice => ⟨false, 0o666⟩

def fileInfo (machine : Machine) (path : String) : Option FileInfo :=
  if hasNul path then none
  else ((machine.tree.node machine.directory path).toOption).map infoOf

def currentDirectory (machine : Machine) : Except Fault String :=
  match machine.tree.pathOf machine.directory with
  | some path => .ok path
  | none => .error (.os .noSuchEntry)

def changeDirectory (path : String) (machine : Machine) : Except Fault Unit × Machine :=
  if hasNul path then (.error .nulInPath, machine)
  else match machine.tree.directoryAt machine.directory path with
    | .ok id => (.ok (), { machine with directory := id })
    | .error cause => (.error (.os cause), machine)

def openSource (machine : Machine) (data : ByteArray) : Stream × Machine :=
  (.source machine.sources.size, { machine with sources := machine.sources.push { data := data } })

def openFirstInput (machine : Machine) : Except Fault (Stream × Machine) :=
  match machine.firstInput with
  | .nothing => .ok (.nothing, machine)
  | .data bytes => .ok (machine.openSource bytes)
  | .refused cause => .error cause
  | .file path =>
    if hasNul path then .error .nulInPath
    else match machine.tree.node machine.directory path with
      | .error cause => .error (.os cause)
      | .ok (.file _ content) => .ok (machine.openSource (FileTree.contentBytes content))
      | .ok (.directory _ _) => .ok (.directory, machine)
      | .ok _ => .ok (.nothing, machine)

def openStreams (machine : Machine) : Except Fault OuterStreams × Machine :=
  match machine.openFirstInput with
  | .error cause => (.error cause, machine)
  | .ok (stream, machine) =>
    let input := machine.openHandle stream
    let output := input.2.openHandle input.2.lastOutput
    (.ok ⟨input.1, output.1⟩, output.2)

def standardDescriptors : Nat := 3

def openEnds (machine : Machine) : Nat :=
  machine.handles.countP fun entry => match entry.2 with
    | .pipeReading _ | .pipeWriting _ => true
    | _ => false

/-- Opens a pipe, if two more descriptors are allowed. The processes of the machine have their streams
and no further descriptors, so no end goes along into them. -/
def openPipe (onExec : OnExec) (machine : Machine) : Except OsError NewPipe × Machine :=
  if onExec = .keep then (.error .invalidArgument, machine)
  else if machine.descriptorLimit.any (· < standardDescriptors + machine.openEnds + 2) then
    (.error .tooManyOpen, machine)
  else
    let id := machine.pipes.size
    let reading := openHandle { machine with pipes := machine.pipes.push ByteArray.empty }
      (.pipeReading id)
    let writing := reading.2.openHandle (.pipeWriting id)
    (.ok ⟨reading.1, writing.1⟩, writing.2)

def close (handle : Handle) (machine : Machine) : Machine :=
  { machine with handles := machine.handles.filter fun entry => entry.1 ≠ handle }

def fullEnvironment (machine : Machine) : List (String × String) :=
  (machine.searchPath.map fun path => ("PATH", path)).toList ++ machine.environment

/-- Starts a process. Its program is found by the path, or by a search if that has no slash. -/
def start (request : StartRequest) (machine : Machine) : Except Fault ProcessId × Machine :=
  if hasNul request.path || hasNul request.name || request.args.any hasNul then
    (.error .nulInProgram, machine)
  else
    let call : Call := ⟨request.name, request.args, machine.directory, machine.fullEnvironment,
      machine.nextProcess⟩
    match Loader.launchByName machine.launch machine.searchPath request.path call machine.tree with
    | .error cause => (.error (.os cause), machine)
    | .ok program =>
      let streamFor (handle : Option Handle) : Stream := (handle.map machine.streamOf).getD .nothing
      let process : Process :=
        ⟨program, streamFor request.input, streamFor request.output, machine.errors⟩
      (.ok machine.nextProcess, { machine with
        running := machine.running ++ [(machine.nextProcess, process)]
        nextProcess := machine.nextProcess + 1 })

def host : Host Machine where
  searchPath := searchPath
  fileInfo := fileInfo
  currentDirectory := currentDirectory
  changeDirectory := changeDirectory
  openStreams := openStreams
  openPipe := openPipe
  close := close
  start := start
  wait := wait
  write channel bytes machine :=
    let written := machine.screen.write channel bytes
    (written.1, { machine with screen := written.2 })
  flush _ machine := (.ok (), machine)

end PipeShell.Machine
