/-!
How a pipeline stage ends, and the code a shell reports for it. The wait word of a finished process
holds the signal in its seven low bits and the exit code in the byte above the eighth bit.
-/
namespace PipeShell

inductive Ending where
  /-- The process exited by itself with this code. -/
  | exited (code : Int32)
  /-- This signal ended the process. -/
  | signaled (signal : Int32)
  /-- The name refers to no program, so nothing was started. -/
  | notFound
  /-- The program exists but the system refuses to run it. -/
  | notExecutable
  deriving DecidableEq, Repr

namespace Ending

/-- The seven low bits of a wait word: zero after a normal exit, else the signal, and 127 for words
that describe no end at all. -/
def signalBits (word : Int32) : Nat := word.toUInt32.toNat % 128

def exitBits (word : Int32) : Nat := word.toUInt32.toNat / 256 % 256

/-- Decodes a wait word; one that describes no end counts as exit code -1. -/
def ofWaitWord (word : Int32) : Ending :=
  if signalBits word = 0 then .exited (Int32.ofNat (exitBits word))
  else if signalBits word = 127 then .exited (-1)
  else .signaled (Int32.ofNat (signalBits word))

/-- The status a shell reports: 128 above the signal, 127 and 126 where nothing ran. -/
def code : Ending → Int32
  | .exited code => code
  | .signaled signal => 128 + signal
  | .notFound => 127
  | .notExecutable => 126

def neverRan : Ending → Bool
  | .notFound | .notExecutable => true
  | .exited _ | .signaled _ => false

end Ending

end PipeShell
