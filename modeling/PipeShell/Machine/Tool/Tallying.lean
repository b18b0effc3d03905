import PipeShell.Machine.Tool.Input

/-!
The tool `wc`: how many lines, words and bytes there are.
-/
namespace PipeShell.Machine.Tool

/-- How many lines, words and bytes went by, and how wide the widest line was. A word begins with a
printable byte and ends before a space. -/
structure Counts where
  lines : Nat := 0
  words : Nat := 0
  bytes : Nat := 0
  inWord : Bool := false
  /-- The column after the last byte of the current line. -/
  column : Nat := 0
  widest : Nat := 0
  deriving DecidableEq, Repr

namespace Counts

/-- The column after a byte; a tab goes on to the next multiple of eight. -/
def columnAfter (column : Nat) (byte : UInt8) : Nat :=
  if byte = Bytes.newline || byte = 12 || byte = 13 then 0
  else if byte = 9 then column / 8 * 8 + 8
  else if Bytes.isPrintable byte then column + 1
  else column

def byte (counts : Counts) (byte : UInt8) : Counts :=
  let starts := !counts.inWord && Bytes.isPrintable byte && !Bytes.isSpace byte
  let column := columnAfter counts.column byte
  { lines := if byte = Bytes.newline then counts.lines + 1 else counts.lines
    words := if starts then counts.words + 1 else counts.words
    bytes := counts.bytes + 1
    inWord := (counts.inWord || starts) && !Bytes.isSpace byte
    column := column
    widest := max counts.widest column }

def chunk (counts : Counts) (data : ByteArray) : Counts := data.foldl byte counts

def add (a b : Counts) : Counts :=
  { lines := a.lines + b.lines, words := a.words + b.words, bytes := a.bytes + b.bytes
    widest := max a.widest b.widest }

end Counts

def countOperand (call : Call) (name : String) :
    Program (Counts × Option Nat × Option OsError) := do
  match ← openOperand call name with
  | .refused cause => return ({}, none, some cause)
  | .file data => return (Counts.chunk {} data, some data.size, none)
  | .input => do
    let size ← Program.measure .done
    let after ← Filter.overInput
      { step := fun counts chunk => (counts.chunk chunk, ByteArray.empty) } ({} : Counts)
    return (after.1, size, after.2)

def countOperands (call : Call) :
    List String → Program (List (String × Counts × Option Nat × Option OsError))
  | [] => return []
  | name :: rest => do
    let first ← countOperand call name
    return (name, first) :: (← countOperands call rest)

def chosenCounts (flags : Flags) (counts : Counts) : List Nat :=
  let all := flags.given.isEmpty
  (if all || flags.has 'l' then [counts.lines] else []) ++
    (if all || flags.has 'w' then [counts.words] else []) ++
    (if flags.has 'm' then [counts.bytes] else []) ++
    (if all || flags.has 'c' then [counts.bytes] else []) ++
    (if flags.has 'L' then [counts.widest] else [])

def countLine (flags : Flags) (width : Nat) (name : Option String) (counts : Counts) : String :=
  String.intercalate " " ((chosenCounts flags counts).map fun n => Bytes.padLeft width (toString n))
    ++ (match name with
      | some name => " " ++ name
      | none => "") ++ "\n"

/-- The width of the columns: that of all sizes together, and more where an operand is no file. -/
def countWidth (flags : Flags) (counted : List (String × Counts × Option Nat × Option OsError)) :
    Nat :=
  if counted.length = 1 && (chosenCounts flags {}).length = 1 then 1
  else
    let sizes := counted.filterMap fun entry => entry.2.2.1
    let width := (toString (Bytes.total sizes)).length
    let isUnknown := counted.any fun entry =>
      entry.2.2.1.isNone && (entry.2.2.2.isNone || entry.2.2.2 = some .isDirectory)
    if isUnknown then max 7 width else width

def showCounts (call : Call) (flags : Flags) (width : Nat) (named : Bool) :
    List (String × Counts × Option Nat × Option OsError) → Program UInt8
  | [] => return 0
  | (name, counts, _, problem) :: rest => do
    let shown := countLine flags width (if named then some name else none) counts
    let code : UInt8 ← match problem with
      | none => do
        Program.put shown
        pure 0
      | some cause => do
        report call (asName (if named then name else "standard input") ++ ": " ++ cause.text)
        if cause = .isDirectory then Program.put shown
        pure 1
    let others ← showCounts call flags width named rest
    return if others = 0 then code else others

def wcFlags : FlagSet where
  plain := ['l', 'w', 'c', 'm', 'L']
  long := [("lines", 'l'), ("words", 'w'), ("bytes", 'c'), ("chars", 'm'),
    ("max-line-length", 'L')]

def wc : Tool := withFlags wcFlags 1 fun call flags => do
  let counted ← countOperands call (orInput flags.operands)
  let width := countWidth flags counted
  let code ← showCounts call flags width (!flags.operands.isEmpty) counted
  if counted.length > 1 then
    Program.put (countLine flags width (some "total") ((counted.map fun entry => entry.2.1).foldl
      Counts.add {}))
  return code

end PipeShell.Machine.Tool
