import PipeShell.Machine.Tool.Formatting

/-!
The tool `seq`: the numbers from one to another, in steps of a third. Numbers are counted in units
of the smallest decimal place that any of them has, so no step is rounded.
-/
namespace PipeShell.Machine.Tool

/-! ### Bounds -/

/-- A number as an argument gives it, with the decimal places and the columns that it takes. -/
structure Bound where
  number : Decimal
  places : Nat
  width : Nat

namespace Bound

/-- The columns of a number: those of its digits, its sign and its point, once its exponent is
worked out. -/
def widthOf (number : Decimal) : Nat :=
  let point := if number.decimals.isEmpty then 0 else 1 + number.decimals.length
  let written := (if number.negative then 1 else 0) + max number.whole.length 1 + point
  match number.exponent with
  | none => written
  | some exponent =>
    if exponent < 0 then
      written + exponent.natAbs + if number.decimals.isEmpty then 1 else 0
    else
      written + (exponent - number.decimals.length).toNat -
        if !number.decimals.isEmpty && number.places = 0 then 1 else 0

def of? (text : String) : Option Bound :=
  match text.toList with
  | '0' :: 'x' :: digits =>
    if digits.isEmpty || (digitsIn 16 digits).length < digits.length then none
    else some ⟨{ whole := (toString (valueIn 16 digits)).toList }, 0, 0⟩
  | letters =>
    match Decimal.read? letters with
    | some (number, []) => some ⟨number, number.places, widthOf number⟩
    | _ => none

def widthWith (bound : Bound) (places : Nat) : Nat :=
  if places = 0 then bound.width - (if bound.places = 0 then 0 else 1 + bound.places)
  else bound.width - bound.places + places + if bound.places = 0 then 1 else 0

end Bound

/-! ### Numbers -/

structure Sequence where
  first : Int
  step : Int
  last : Int
  shown : Int → String
  separator : String

namespace Sequence

def reaches (sequence : Sequence) (number : Int) : Bool :=
  if sequence.step < 0 then sequence.last ≤ number else number ≤ sequence.last

def blockSize : Nat := 1024

/-- A block of numbers with what stands in front of each, and the number behind the block. -/
def block (sequence : Sequence) (number : Int) : Nat → String → String × Int
  | 0, soFar => (soFar, number)
  | left + 1, soFar =>
    if sequence.reaches number then
      let front := if number = sequence.first then "" else sequence.separator
      block sequence (number + sequence.step) left (soFar ++ front ++ sequence.shown number)
    else (soFar, number)

/-- Puts out all numbers and a newline; nothing if there are none. -/
def put (sequence : Sequence) : Program Unit := do
  if sequence.reaches sequence.first then do
    Program.iterate (fun number => do
      let block := sequence.block number blockSize ""
      Program.put block.1
      return if sequence.reaches block.2 then .inl block.2 else .inr ())
      Program.loopLimit sequence.first
    Program.put "\n"

end Sequence

/-! ### Formats -/

/-- What stands around the number in a format, and how the number itself is written. -/
structure NumberFormat where
  before : List UInt8
  directive : Format.Directive
  letter : UInt8
  after : List UInt8

namespace NumberFormat

/-- The text up to the first directive, with doubled signs as single ones, and what follows. -/
def plainPart : List UInt8 → List UInt8 × List UInt8
  | 37 :: 37 :: rest =>
    let others := plainPart rest
    (37 :: others.1, others.2)
  | 37 :: rest => ([], 37 :: rest)
  | byte :: rest =>
    let others := plainPart rest
    (byte :: others.1, others.2)
  | [] => ([], [])

def letters : List UInt8 := Bytes.toList "efgaEFGA".toUTF8

/-- Reads a format, which must have one directive for a number with a fraction. -/
def read (text : String) : Except String NumberFormat :=
  let name := "format " ++ quoted text
  let parts := plainPart (Bytes.toList text.toUTF8)
  match parts.2 with
  | 37 :: rest =>
    let read := Format.directive rest []
    match read.2.1.dropWhile (· = 76) with
    | [] => .error (name ++ " ends in %")
    | letter :: after =>
      if !letters.contains letter then
        .error (name ++ " has unknown %" ++ shownByte letter ++ " directive")
      else
        let others := plainPart after
        if others.2.isEmpty then .ok ⟨parts.1, read.1, letter, others.1⟩
        else .error (name ++ " has too many % directives")
  | _ => .error (name ++ " has no % directive")

def text (format : NumberFormat) (number : String) : String :=
  let written := match format.directive.write toolEscapes format.letter number with
    | some (bytes, _, _) => bytes
    | none => []
  Bytes.toText (Bytes.ofList (format.before ++ written ++ format.after))

end NumberFormat

/-! ### Arguments -/

/-- The arguments of `seq`: whether numbers have the same width, the separator, the format, and the
operands. -/
structure SequenceArgs where
  sameWidth : Bool := false
  separator : String := "\n"
  format : Option String := none
  operands : List String := []

/-- Whether an argument is a flag; a negative number is none. -/
def isSequenceFlag (arg : String) : Bool :=
  match arg.toList with
  | '-' :: second :: _ => !second.isDigit && second ≠ '.'
  | _ => false

def sequenceFlags : FlagSet where
  plain := ['w']
  valued := ['s', 'f']
  long := [("equal-width", 'w'), ("separator", 's'), ("format", 'f')]
  strict := true

/-- The flags at the front of an argument list, with their values, and the operands behind them. -/
def splitFlags : List String → List String × List String
  | [] => ([], [])
  | "--" :: rest => ([], rest)
  | "-s" :: value :: rest =>
    let others := splitFlags rest
    ("-s" :: value :: others.1, others.2)
  | "-f" :: value :: rest =>
    let others := splitFlags rest
    ("-f" :: value :: others.1, others.2)
  | arg :: rest =>
    if isSequenceFlag arg then
      let others := splitFlags rest
      (arg :: others.1, others.2)
    else ([], arg :: rest)

/-- Reads the arguments; the flags end in front of the first number. -/
def sequenceArgs (args : List String) : Except FlagError SequenceArgs := do
  let parts := splitFlags args
  let flags ← sequenceFlags.read parts.1
  return {
    sameWidth := flags.has 'w'
    separator := (flags.value? 's').getD "\n"
    format := flags.value? 'f'
    operands := flags.operands ++ parts.2 }

/-- The bounds that one to three operands give: first, step and last. -/
def boundsOf (operands : List String) : Except String (Bound × Bound × Bound) :=
  let one : Bound := ⟨{ whole := ['1'] }, 0, 1⟩
  let read (text : String) : Except String Bound :=
    match Bound.of? text with
    | some bound => .ok bound
    | none => .error ("invalid floating point argument: " ++ quoted text)
  match operands with
  | [] => .error "missing operand"
  | [last] => (read last).map fun last => (one, one, last)
  | [first, last] => do
    let first ← read first
    return (first, one, ← read last)
  | [first, written, last] => do
    let first ← read first
    let step ← read written
    if step.number.parts.1 = 0 then throw ("invalid Zero increment value: " ++ quoted written)
    return (first, step, ← read last)
  | _ :: _ :: _ :: extra :: _ => .error ("extra operand " ++ quoted extra)

def sequenceOf (args : SequenceArgs) (format : Option NumberFormat) (first step last : Bound) :
    Sequence :=
  let places := max first.places step.places
  let finest := max places last.places
  let unit := Nat.pow 10 (finest - places)
  let width := if args.sameWidth then max (first.widthWith places) (last.widthWith places) else 0
  let shown (units : Int) : String :=
    let number := decimalText places (units / unit)
    match format with
    | some format => format.text number
    | none =>
      if units < 0 then "-" ++ Bytes.padZeros (width - 1) (number.drop 1).toString
      else Bytes.padZeros width number
  ⟨first.number.scaled finest, step.number.scaled finest, last.number.scaled finest, shown,
    args.separator⟩

def seq : Tool := fun call => do
  match sequenceArgs call.args with
  | .error cause => misuse call 1 cause.message
  | .ok args =>
    match boundsOf args.operands with
    | .error problem => misuse call 1 problem
    | .ok (first, step, last) =>
      match args.format.mapM NumberFormat.read with
      | .error problem => fail call 1 problem
      | .ok format => do
        if args.sameWidth && format.isSome then
          misuse call 1 "format string may not be specified when printing equal width strings"
        else do
          (sequenceOf args format first step last).put
          return 0

end PipeShell.Machine.Tool
