import PipeShell.Host

/-!
The state of a running shell: what it remembers from line to line, the prompts it has shown, and the
world it runs in. The actions of a shell change that state and can fail only with a fault of a
stream or a line source; what was done before a fault stays done.
-/
namespace PipeShell

/-- The working directory is part of the world. -/
structure ShellState (σ : Type) where
  /-- Whether the loop goes on. -/
  running : Bool := true
  /-- The status of the last command. -/
  status : Int32 := 0
  /-- The prompts shown so far, one for each line that was asked for. -/
  prompts : List String := []
  world : σ

abbrev ShellM (σ : Type) := EStateM Fault (ShellState σ)

namespace ShellM

variable {σ : Type}

/-- Makes an operation on the world an action that fails when the operation does. -/
def onWorld {α : Type} (operation : σ → Except Fault α × σ) : ShellM σ α := fun state =>
  match operation state.world with
  | (.ok value, world) => .ok value { state with world := world }
  | (.error fault, world) => .error fault { state with world := world }

/-- The result of an operation that may fail, with no failure of the action. -/
def attempt {ε α : Type} (operation : σ → Except ε α × σ) : ShellM σ (Except ε α) := fun state =>
  let result := operation state.world
  .ok result.1 { state with world := result.2 }

def print (host : Host σ) (channel : Channel) (text : String) : ShellM σ Unit :=
  onWorld (host.write channel text.toUTF8)

def printLine (host : Host σ) (channel : Channel) (line : String) : ShellM σ Unit :=
  print host channel (line ++ "\n")

def endSession : ShellM σ Unit := modify fun state => { state with running := false }

def remember (status : Int32) : ShellM σ Unit := modify fun state => { state with status := status }

end ShellM

end PipeShell
