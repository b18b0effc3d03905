import PipeShell.OsError

/-!
What the shell needs from its surroundings. A `System` answers questions about files and runs
programs, a `Terminal` takes the shell's own text, and a `Host` is both over one state. Every
operation is a function of the state, so a run of the shell is a value that can be compared with
another run. Nothing is assumed of the answers.
-/
namespace PipeShell

/-- An open end of a pipe or of a stream, owned by whoever may close it. -/
abbrev Handle := Nat

abbrev ProcessId := Nat

structure NewPipe where
  reading : Handle
  writing : Handle
  deriving DecidableEq, Repr

/-- Whether an end that the shell has open goes along into the programs that it starts. An end that is
installed as a stream of a program is open there in any case. -/
inductive OnExec where
  | close
  | keep
  deriving DecidableEq, Repr

structure OuterStreams where
  input : Handle
  output : Handle
  deriving DecidableEq, Repr

/-- What the shell looks at in a file, symbolic links followed. -/
structure FileInfo where
  regular : Bool
  mode : Nat
  deriving DecidableEq, Repr

/-- A regular file with at least one of its three execute bits. -/
def FileInfo.runnable (info : FileInfo) : Bool := info.regular && info.mode &&& 0o111 != 0

/-- A program to start: its file, the name it is told, its arguments and its two streams. A missing
stream is inherited. -/
structure StartRequest where
  path : String
  name : String
  args : List String
  input : Option Handle
  output : Option Handle
  deriving DecidableEq, Repr

structure System (σ : Type) where
  /-- The search path of the environment, if there is one. -/
  searchPath : σ → Option String
  /-- What a path refers to, relative to the working directory; nothing if there is no such file. -/
  fileInfo : σ → String → Option FileInfo
  currentDirectory : σ → Except Fault String
  changeDirectory : String → σ → Except Fault Unit × σ
  /-- Opens the input and output of one pipeline. -/
  openStreams : σ → Except Fault OuterStreams × σ
  openPipe : OnExec → σ → Except OsError NewPipe × σ
  close : Handle → σ → σ
  start : StartRequest → σ → Except Fault ProcessId × σ
  /-- Waits for a process to end and gives its wait word, if the wait does not fail. -/
  wait : ProcessId → σ → Except Fault Int32 × σ

inductive Channel where
  | out
  | err
  deriving DecidableEq, Repr

structure Terminal (σ : Type) where
  write : Channel → ByteArray → σ → Except Fault Unit × σ
  flush : Channel → σ → Except Fault Unit × σ

structure Host (σ : Type) extends System σ, Terminal σ

namespace Host

variable {σ τ : Type}

/-- A system and a terminal that do not share any state. -/
def ofParts (system : System σ) (terminal : Terminal τ) : Host (σ × τ) where
  searchPath s := system.searchPath s.1
  fileInfo s := system.fileInfo s.1
  currentDirectory s := system.currentDirectory s.1
  changeDirectory path s := let r := system.changeDirectory path s.1; (r.1, r.2, s.2)
  openStreams s := let r := system.openStreams s.1; (r.1, r.2, s.2)
  openPipe onExec s := let r := system.openPipe onExec s.1; (r.1, r.2, s.2)
  close handle s := (system.close handle s.1, s.2)
  start request s := let r := system.start request s.1; (r.1, r.2, s.2)
  wait process s := let r := system.wait process s.1; (r.1, r.2, s.2)
  write channel bytes s := let r := terminal.write channel bytes s.2; (r.1, s.1, r.2)
  flush channel s := let r := terminal.flush channel s.2; (r.1, s.1, r.2)

end Host

end PipeShell
