import PipeShell.Builtin.Help
import PipeShell.ShellState
import PipeShell.Text.Blank

/-!
Running a built-in. Help goes to the output with status 0, a refused argument list and a failure of
the command itself go to the error channel with status 1.
-/
namespace PipeShell.Builtin

open ShellM

variable {σ : Type}

def fail (host : Host σ) (reason : String) : ShellM σ Int32 := do
  printLine host .err reason
  return 1

/-- Writes text to the output with status 0; if the output fails, that is reported as a failure. -/
def present (host : Host σ) (text : String) : ShellM σ Int32 := do
  match ← attempt (host.write .out text.toUTF8) with
  | .ok () => return 0
  | .error fault => fail host fault.message

def changeTo (host : Host σ) : List String → ShellM σ Int32
  | [] => return 0
  | target :: _ => do
    match ← attempt (host.changeDirectory target) with
    | .ok () => return 0
    | .error fault => fail host ("cd: " ++ target ++ ": " ++ fault.message)

def execute (host : Host σ) (kind : Builtin) (positionals : List String) : ShellM σ Int32 :=
  match kind with
  | .exit => do
    endSession
    return 0
  | .cd => changeTo host positionals
  | .rc => do
    let status := (← get).status
    present host (toString status ++ "\n")
  | .dragon => present host dragonPicture

/-- Runs a built-in on an argument list and gives its status, which is not recorded. -/
def run (host : Host σ) (kind : Builtin) (args : List String) : ShellM σ Int32 := do
  match kind.grammar.read args with
  | .ok values => execute host kind values.positionals
  | .error (.help text) =>
    printLine host .out (Text.trimEnd text)
    return 0
  | .error (.refused cause) => fail host (Text.trimEnd cause.message)

end PipeShell.Builtin
