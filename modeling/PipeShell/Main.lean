import PipeShell.CommandLine
import PipeShell.Machine.StandardTree
import PipeShell.Machine.System

/-!
The program: the shell on a machine in memory, with the lines of the standard input.
-/
namespace PipeShell

def homeDirectory : String := "/root"

/-- The machine that the program runs on: the shell's own outputs are those of its processes too. -/
def homeMachine : Machine :=
  { Machine.standard homeDirectory [] (some "/usr/bin:/bin") with
    lastOutput := .screen .out
    errors := .screen .err }

end PipeShell

def main (args : List String) : IO UInt32 := do
  let input ← (← IO.getStdin).readBinToEnd
  let world := PipeShell.homeMachine
  let result := PipeShell.CommandLine.run PipeShell.Machine.host args input { world := world }
  let (code, after) := match result with
    | .ok code state => (code.toUInt32, state.world)
    | .error _ state => (1, state.world)
  (← IO.getStdout).write after.screen.out.written
  (← IO.getStderr).write after.screen.err.written
  return code
