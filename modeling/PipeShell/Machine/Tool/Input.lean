import PipeShell.Machine.Bytes
import PipeShell.Machine.Tool.Flags

/-!
What tools read: their input and the files among their operands, chunk by chunk or line by line. A
filter keeps a state from chunk to chunk and puts something out for each.
-/
namespace PipeShell.Machine.Tool

/-- The ways a tool can fail to read an operand, with its own words for them. -/
structure InputErrors where
  opening : String → OsError → String := fun name cause => asName name ++ ": " ++ cause.text
  reading : String → OsError → String := fun name cause => asName name ++ ": " ++ cause.text
  code : UInt8 := 1

inductive Operand where
  | input
  | file (data : ByteArray)
  | refused (cause : OsError)

/-- Looks up an operand; a dash stands for the input. -/
def openOperand (call : Call) (name : String) : Program Operand := do
  if name = "-" then return .input
  match (← Program.tree).readFile call.directory name with
  | .ok data => return .file data
  | .error cause => return .refused cause

def orInput (operands : List String) : List String := if operands.isEmpty then ["-"] else operands

def reportInput (call : Call) (errors : InputErrors) (name : String) (cause : OsError) :
    Program Unit :=
  report call
    (if cause = .isDirectory then errors.reading name cause else errors.opening name cause)

def contentOf (call : Call) (name : String) : Program (Except OsError ByteArray) := do
  match ← openOperand call name with
  | .input => Program.readAll
  | .file data => return .ok data
  | .refused cause => return .error cause

/-- All bytes of an operand; a fault is reported and gives nothing. -/
def readOperand (call : Call) (errors : InputErrors) (name : String) :
    Program (Option ByteArray) := do
  match ← contentOf call name with
  | .ok data => return some data
  | .error cause => do
    reportInput call errors name cause
    return none

/-- The bytes of all operands that can be read, and the code for the others. -/
def readOperands (call : Call) (errors : InputErrors) :
    List String → Program (List ByteArray × UInt8)
  | [] => return ([], 0)
  | name :: rest => do
    let first ← readOperand call errors name
    let others ← readOperands call errors rest
    match first with
    | some data => return (data :: others.1, others.2)
    | none => return (others.1, errors.code)

structure Filter (σ : Type) where
  step : σ → ByteArray → σ × ByteArray
  /-- What is left to put out at the end of an operand. -/
  finish : σ → σ × ByteArray := fun state => (state, ByteArray.empty)
  /-- Whether no more input is wanted. -/
  stops : σ → Bool := fun _ => false

namespace Filter

variable {σ : Type}

def overInput (filter : Filter σ) (state : σ) : Program (σ × Option OsError) :=
  Program.iterate (fun state => do
    if filter.stops state then return .inr (state, none)
    match ← Program.readChunk with
    | .error cause => return .inr (state, some cause)
    | .ok chunk =>
      if chunk.isEmpty then return .inr (state, none)
      let after := filter.step state chunk
      Program.emit .out after.2
      return .inl after.1)
    Program.loopLimit state

def overOperand (filter : Filter σ) (call : Call) (errors : InputErrors) (state : σ)
    (name : String) : Program (σ × UInt8) := do
  let read ← match ← openOperand call name with
    | .input => filter.overInput state
    | .refused cause => pure (state, some cause)
    | .file data => do
      let after := filter.step state data
      Program.emit .out after.2
      pure (after.1, none)
  let last := filter.finish read.1
  Program.emit .out last.2
  match read.2 with
  | none => return (last.1, 0)
  | some cause => do
    reportInput call errors name cause
    return (last.1, errors.code)

/-- Runs a filter over operands in turn, up to the place where it wants no more. -/
def overOperands (filter : Filter σ) (call : Call) (errors : InputErrors) (state : σ) :
    List String → Program (σ × UInt8)
  | [] => return (state, 0)
  | name :: rest => do
    let first ← filter.overOperand call errors state name
    if filter.stops first.1 then return first
    let others ← filter.overOperands call errors first.1 rest
    return (others.1, if others.2 = 0 then first.2 else others.2)

end Filter

/-- A filter that takes lines; each comes with its newline, except perhaps the last. -/
structure LineFilter (σ : Type) where
  line : σ → ByteArray → σ × ByteArray
  stops : σ → Bool := fun _ => false

namespace LineFilter

variable {σ : Type}

/-- The state of a line filter, with the part of a line that has come so far. -/
structure Place (σ : Type) where
  state : σ
  unfinished : ByteArray := ByteArray.empty

def takeLines (filter : LineFilter σ) (state : σ) (out : ByteArray) : List ByteArray → σ × ByteArray
  | [] => (state, out)
  | line :: rest =>
    if filter.stops state then (state, out)
    else
      let after := filter.line state line
      takeLines filter after.1 (out ++ after.2) rest

def takeChunk (filter : LineFilter σ) (place : Place σ) (chunk : ByteArray) :
    Place σ × ByteArray :=
  let all := Bytes.lines (place.unfinished ++ chunk)
  match all.getLast? with
  | none => (place, ByteArray.empty)
  | some last =>
    if Bytes.endsLine last then
      let after := filter.takeLines place.state ByteArray.empty all
      (⟨after.1, ByteArray.empty⟩, after.2)
    else
      let after := filter.takeLines place.state ByteArray.empty all.dropLast
      (⟨after.1, last⟩, after.2)

def takeRest (filter : LineFilter σ) (place : Place σ) : Place σ × ByteArray :=
  if place.unfinished.isEmpty then (place, ByteArray.empty)
  else
    let after := filter.takeLines place.state ByteArray.empty [place.unfinished]
    (⟨after.1, ByteArray.empty⟩, after.2)

def toFilter (filter : LineFilter σ) : Filter (Place σ) where
  step := filter.takeChunk
  finish := filter.takeRest
  stops place := filter.stops place.state

def run (filter : LineFilter σ) (call : Call) (errors : InputErrors) (state : σ)
    (operands : List String) : Program (σ × UInt8) := do
  let after ← filter.toFilter.overOperands call errors ⟨state, ByteArray.empty⟩ (orInput operands)
  return (after.1.state, after.2)

end LineFilter

def lineByLine (call : Call) (errors : InputErrors) (operands : List String)
    (change : ByteArray → ByteArray) : Program UInt8 := do
  let filter : LineFilter Unit := { line := fun state line => (state, change line) }
  return (← filter.run call errors () operands).2

end PipeShell.Machine.Tool
