/-!
The settings of a shell: its prompt, the limit on the commands of one pipeline, and what is done
with a line that was read successfully.
-/
namespace PipeShell

inductive Dump where
  /-- Run the pipeline and print nothing about it. -/
  | off
  /-- Print the pipeline, then run it. -/
  | beforeRunning
  /-- Print the pipeline and run nothing. -/
  | only
  deriving DecidableEq, Repr

structure Settings where
  prompt : String := "dsh3> "
  maxCommands : Nat := 8
  dump : Dump := .off
  /-- Keep a history of the lines typed at a terminal. -/
  history : Bool := true
  deriving DecidableEq, Repr

inductive SettingsError where
  | noCommandsAllowed
  deriving DecidableEq, Repr

def SettingsError.message : SettingsError → String
  | .noCommandsAllowed => "max commands per pipeline must be at least 1"

/-- Settings under which at least one command can run. -/
def Settings.check (settings : Settings) : Except SettingsError Settings :=
  if settings.maxCommands = 0 then .error .noCommandsAllowed else .ok settings

end PipeShell
