import PipeShell.Machine.Bytes

/-!
Signals by name and by number.
-/
namespace PipeShell.Machine.Signal

def names : List String :=
  ["HUP", "INT", "QUIT", "ILL", "TRAP", "ABRT", "BUS", "FPE", "KILL", "USR1", "SEGV", "USR2",
    "PIPE", "ALRM", "TERM", "STKFLT", "CHLD", "CONT", "STOP", "TSTP", "TTIN", "TTOU", "URG", "XCPU",
    "XFSZ", "VTALRM", "PROF", "WINCH", "POLL", "PWR", "SYS"]

def highest : Nat := 64

/-- The number of a signal that is named with or without `SIG`, or by its number; the end of a
script counts as number 0. -/
def number? (text : String) : Option Nat :=
  match Bytes.natOf? text with
  | some n => if n ≤ highest then some n else none
  | none =>
    let name := if text.startsWith "SIG" then (text.drop 3).toString else text
    if name = "EXIT" then some 0 else (names.idxOf? name).map (· + 1)

def isHarmless (signal : Nat) : Bool :=
  signal = 0 || signal = 17 || signal = 18 || signal = 23 || signal = 28

def describe (signal : Nat) : Option String :=
  match signal with
  | 1 => some "Hangup"
  | 3 => some "Quit"
  | 4 => some "Illegal instruction"
  | 5 => some "Trace/breakpoint trap"
  | 6 => some "Aborted"
  | 7 => some "Bus error"
  | 8 => some "Floating point exception"
  | 9 => some "Killed"
  | 10 => some "User defined signal 1"
  | 11 => some "Segmentation fault"
  | 12 => some "User defined signal 2"
  | 14 => some "Alarm clock"
  | 15 => some "Terminated"
  | _ => none

end PipeShell.Machine.Signal
