import PipeShell.OptionGrammar
import PipeShell.Shell

/-!
The shell as a program: its options, the settings they give, and a whole run on an input that is no
terminal, up to the exit code.

The lines of a run are fixed by its input before the first of them is carried out: no process that
the shell runs is taken to read from it. What is written is what the shell has to say to its user.
The records that it logs beside that are left out, and with them what `-v` is for, which is to log
more; so is the history of lines typed at a terminal.
-/
namespace PipeShell.CommandLine

open ShellM

def helpText : String :=
  "Usage: dsh [--prompt <prompt>] [--max-commands <max-commands>] [--dump] [--parse-only] " ++
  "[--no-history] [-v]\n\n" ++
  "An interactive shell with pipelines and a few built-ins (exit, cd, rc, dragon).\n\n" ++
  "Options:\n" ++
  "  --prompt          prompt printed before each line read from a terminal\n" ++
  "  --max-commands    maximum number of commands in one pipeline\n" ++
  "  --dump            print each parsed command line before running it\n" ++
  "  --parse-only      print each parsed command line and run nothing\n" ++
  "  --no-history      do not keep a history of entered lines\n" ++
  "  -v, --verbose     log debug diagnostics to stderr\n" ++
  "  --help, help      display usage information\n"

/-- The options of the program; it takes no positional arguments. -/
def grammar : OptionGrammar where
  help := helpText
  switches := [("--dump", "--dump"), ("--parse-only", "--parse-only"),
    ("--no-history", "--no-history"), ("-v", "--verbose"), ("--verbose", "--verbose")]
  valued := [("--prompt", .text), ("--max-commands", .number)]
  positionals := .none

/-- What is done with a line: printing alone wins over printing before a run. -/
def dumpOf (values : OptionValues) : Dump :=
  if values.switches.contains "--parse-only" then .only
  else if values.switches.contains "--dump" then .beforeRunning
  else .off

def maxCommandsOf (values : OptionValues) : Nat :=
  match values.values.lookup "--max-commands" with
  | none => ({} : Settings).maxCommands
  | some text =>
    match readNumber text with
    | .ok number => number
    | .error _ => ({} : Settings).maxCommands

def settingsOf (values : OptionValues) : Settings where
  prompt := (values.values.lookup "--prompt").getD ({} : Settings).prompt
  maxCommands := maxCommandsOf values
  dump := dumpOf values
  history := !values.switches.contains "--no-history"

def refusal (cause : OptionError) : String :=
  cause.message ++ "\nRun dsh --help for more information."

/-- What is said of a fault that ends the program. Bytes that are no text are a fault of the line
reader, which says so in the words of its cause. -/
def faultText : Fault → String
  | .notText => Fault.notText.message ++ ": " ++ Fault.notText.message
  | fault => fault.message

/-- The exit code for a status; one that is no byte counts as a failure. -/
def exitCodeOf (status : Int32) : UInt8 :=
  if 0 ≤ status.toInt && status.toInt < 256 then UInt8.ofNat status.toInt.toNat else 1

variable {σ : Type}

/-- Runs the shell under these settings on an input that is no terminal. -/
def runLines (host : Host σ) (settings : Settings) (input : ByteArray) : ShellM σ UInt8 := do
  try
    let status ← Shell.loop host settings (LineSource.ofTyping input)
    printLine host .out ("cmd loop returned " ++ toString status)
    return exitCodeOf status
  catch fault => do
    printLine host .err ("dsh: " ++ faultText fault)
    return 1

def run (host : Host σ) (args : List String) (input : ByteArray) : ShellM σ UInt8 := do
  match grammar.read args with
  | .error (.help text) => do
    printLine host .out text
    return 0
  | .error (.refused cause) => do
    printLine host .err (refusal cause)
    return 1
  | .ok values =>
    match (settingsOf values).check with
    | .error cause => do
      printLine host .err ("dsh: " ++ cause.message)
      return 1
    | .ok settings => runLines host settings input

end PipeShell.CommandLine
