import PipeShell.Machine.Tool.Amount
import PipeShell.Machine.Tool.Input

/-!
The tool `od`: bytes as numbers or characters, a fixed count on each line behind the address of the
first one.
-/
namespace PipeShell.Machine.Tool

/-! ### Formats -/

/-- How bytes are shown: how many at once, how wide, and in which words. -/
structure DumpFormat where
  size : Nat
  width : Nat
  text : Nat → String

def characterOf (byte : Nat) : String :=
  match byte with
  | 0 => "\\0"
  | 7 => "\\a"
  | 8 => "\\b"
  | 9 => "\\t"
  | 10 => "\\n"
  | 11 => "\\v"
  | 12 => "\\f"
  | 13 => "\\r"
  | _ => if 32 ≤ byte && byte < 127 then (Char.ofNat byte).toString
    else Bytes.padZeros 3 (Bytes.digits 8 byte)

def characterNames : List String :=
  ["nul", "soh", "stx", "etx", "eot", "enq", "ack", "bel", "bs", "ht", "nl", "vt", "ff", "cr",
    "so", "si", "dle", "dc1", "dc2", "dc3", "dc4", "nak", "syn", "etb", "can", "em", "sub", "esc",
    "fs", "gs", "rs", "us", "sp"]

def nameOf (byte : Nat) : String :=
  let low := byte % 128
  if low = 127 then "del" else (characterNames[low]?).getD (Char.ofNat low).toString

def octalFormat (size : Nat) : DumpFormat :=
  let width := if size = 1 then 3 else if size = 2 then 6 else if size = 4 then 11 else 22
  ⟨size, width, fun n => Bytes.padZeros width (Bytes.digits 8 n)⟩

def hexFormat (size : Nat) : DumpFormat :=
  ⟨size, 2 * size, fun n => Bytes.padZeros (2 * size) (Bytes.digits 16 n)⟩

def unsignedFormat (size : Nat) : DumpFormat :=
  let width := if size = 1 then 3 else if size = 2 then 5 else if size = 4 then 10 else 20
  ⟨size, width, fun n => toString n⟩

def signedFormat (size : Nat) : DumpFormat :=
  let width := if size = 1 then 4 else if size = 2 then 6 else if size = 4 then 11 else 20
  ⟨size, width, fun n => toString
    (if n < 1 <<< (8 * size - 1) then (n : Int) else (n : Int) - (1 <<< (8 * size) : Nat))⟩

def characterFormat : DumpFormat := ⟨1, 3, characterOf⟩

def nameFormat : DumpFormat := ⟨1, 3, nameOf⟩

/-! ### Type strings -/

inductive TypeFault where
  | unknownLetter (letter : Char)
  | unknownSize (written : List Char) (size : Nat)
  deriving DecidableEq, Repr

def TypeFault.message (text : String) : TypeFault → String
  | .unknownLetter letter =>
    "invalid character '" ++ letter.toString ++ "' in type string " ++ quoted text
  | .unknownSize written size => "invalid type string " ++ quoted (String.ofList written) ++
    ";\nthis system doesn't provide a " ++ toString size ++ "-byte integral type"

/-- The size at the front of a text, in digits or as a letter, and what follows it. -/
def sizeIn (text : List Char) : Option Nat × List Char :=
  match text with
  | 'C' :: rest => (some 1, rest)
  | 'S' :: rest => (some 2, rest)
  | 'I' :: rest => (some 4, rest)
  | 'L' :: rest => (some 8, rest)
  | _ =>
    let digits := digitsIn 10 text
    (if digits.isEmpty then none else some (valueIn 10 digits), text.drop digits.length)

def usualSize : Nat := 4

def typeIn (letter : Char) (rest : List Char) : Except TypeFault (DumpFormat × List Char) :=
  let sized (format : Nat → DumpFormat) : Except TypeFault (DumpFormat × List Char) :=
    let read := sizeIn rest
    let size := read.1.getD usualSize
    if [1, 2, 4, 8].contains size then .ok (format size, read.2)
    else .error (.unknownSize (letter :: rest) size)
  match letter with
  | 'a' => .ok (nameFormat, rest)
  | 'c' => .ok (characterFormat, rest)
  | 'd' => sized signedFormat
  | 'o' => sized octalFormat
  | 'u' => sized unsignedFormat
  | 'x' => sized hexFormat
  | _ => .error (.unknownLetter letter)

/-- The formats that a type string lists, each with whether the bytes follow as text. -/
def typesIn : Nat → List Char → Except TypeFault (List (DumpFormat × Bool))
  | 0, _ | _, [] => .ok []
  | fuel + 1, letter :: rest => do
    let (format, rest) ← typeIn letter rest
    let trailed := rest.head? = some 'z'
    let others ← typesIn fuel (if trailed then rest.drop 1 else rest)
    return (format, trailed) :: others

def typeOf? (flag : Char) : Option String :=
  [('a', "a"), ('b', "o1"), ('c', "c"), ('d', "u2"), ('h', "x2"), ('i', "dI"), ('l', "dL"),
    ('o', "o2"), ('s', "d2"), ('x', "x2"), ('B', "o2"), ('D', "u4"), ('H', "x4"), ('I', "dL"),
    ('L', "dL"), ('O', "o4"), ('X', "x4")].lookup flag

def formatsOf : List (Char × String) → Except String (List (DumpFormat × Bool))
  | [] => .ok []
  | (flag, value) :: rest =>
    match if flag = 't' then some value else typeOf? flag with
    | none => formatsOf rest
    | some written =>
      match typesIn written.length written.toList with
      | .error fault => .error (TypeFault.message written fault)
      | .ok first => (formatsOf rest).map fun others => first ++ others

/-! ### Lines -/

def numbersIn (size : Nat) : Nat → List UInt8 → List Nat
  | 0, _ => []
  | fuel + 1, bytes =>
    if bytes.isEmpty then []
    else (bytes.take size).foldr (fun byte n => n * 256 + byte.toNat) 0 ::
      numbersIn size fuel (bytes.drop size)

/-- A format with the room that its line takes beside those of other formats, and whether the bytes
follow as text. -/
structure DumpLine where
  format : DumpFormat
  /-- How many fields a whole line has. -/
  fields : Nat
  /-- How many more columns its line takes than its own fields need. -/
  spare : Nat := 0
  trailer : Bool := false

/-- The columns in front of field `index`: the spare ones are spread over the line. -/
def DumpLine.widthOf (line : DumpLine) (index : Nat) : Nat :=
  let left (n : Nat) : Nat := line.spare * (line.fields - n) / max line.fields 1
  1 + line.format.width + (left index - left (index + 1))

def trailerOf (bytes : List UInt8) : String :=
  "  >" ++ String.ofList (bytes.map fun byte =>
    if Bytes.isPrintable byte then Char.ofNat byte.toNat else '.') ++ "<"

def DumpLine.row (line : DumpLine) (bytes : List UInt8) : String :=
  let numbers := numbersIn line.format.size bytes.length bytes
  let shown := String.join (numbers.zipIdx.map fun entry =>
    Bytes.padLeft (line.widthOf entry.2) (line.format.text entry.1))
  if line.trailer then
    let rest := (List.range (line.fields - numbers.length)).map fun n =>
      line.widthOf (numbers.length + n)
    shown ++ String.ofList (List.replicate (Bytes.total rest) ' ') ++ trailerOf bytes
  else shown

def aligned (rowSize : Nat) (formats : List (DumpFormat × Bool)) : List DumpLine :=
  let lines := formats.map fun entry =>
    ({ format := entry.1, fields := rowSize / entry.1.size, trailer := entry.2 } : DumpLine)
  let width (line : DumpLine) : Nat := line.fields * (1 + line.format.width)
  let widest := (lines.map width).foldl max 0
  lines.map fun line => { line with spare := widest - width line }

/-- The lines for one row of bytes; only the first has the address. -/
def dumpRow (lines : List DumpLine) (address : String) (bytes : List UInt8) : List String :=
  let gap := String.ofList (List.replicate address.length ' ')
  lines.zipIdx.map fun entry => (if entry.2 = 0 then address else gap) ++ entry.1.row bytes

/-- A dump: the lines of a row, the bytes in a row, how addresses are written, and whether rows like
the one before are shown. -/
structure Dump where
  lines : List DumpLine
  rowSize : Nat
  address : Nat → String
  every : Bool

/-- The lines of a dump; rows like the one before are left out and marked once. -/
def Dump.text (dump : Dump) : Nat → Nat → Option (List UInt8) → Bool → List UInt8 → List String
  | 0, _, _, _, _ => []
  | fuel + 1, place, before, marked, bytes =>
    if bytes.isEmpty then (if dump.address place = "" then [] else [dump.address place])
    else
      let row := bytes.take dump.rowSize
      let rest := dump.text fuel (place + row.length) (some row)
      if !dump.every && before = some row && row.length = dump.rowSize then
        (if marked then [] else ["*"]) ++ rest true (bytes.drop dump.rowSize)
      else dumpRow dump.lines (dump.address place) row ++ rest false (bytes.drop dump.rowSize)

/-! ### Arguments -/

def odFlags : FlagSet where
  plain := "abcdhiloxsvBDHILOX".toList
  valued := ['t', 'A', 'N', 'j']
  attached := ['w']
  long := [("format", 't'), ("address-radix", 'A'), ("read-bytes", 'N'), ("skip-bytes", 'j'),
    ("width", 'w'), ("output-duplicates", 'v')]

/-- How addresses are written; the letter that is wrong if that makes no sense. -/
def addressOf (flags : Flags) : Except String (Nat → String) :=
  match flags.value? 'A' with
  | none => .ok fun n => Bytes.padZeros 7 (Bytes.digits 8 n)
  | some text =>
    match text.toList.headD '\x00' with
    | 'o' => .ok fun n => Bytes.padZeros 7 (Bytes.digits 8 n)
    | 'd' => .ok fun n => Bytes.padZeros 7 (toString n)
    | 'x' => .ok fun n => Bytes.padZeros 6 (Bytes.digits 16 n)
    | 'n' => .ok fun _ => ""
    | letter => .error ("invalid output address radix '" ++ letter.toString ++
      "'; it must be one character from [doxn]")

def flagCount (flags : Flags) (flag : Char) : Except String (Option Nat) :=
  match flags.value? flag with
  | none => .ok none
  | some text =>
    match basedCount text with
    | .ok count => .ok (some count)
    | .error fault =>
      .error ((match fault with
        | .noNumber => "invalid -"
        | .unknownLetters => "invalid suffix in -") ++ flag.toString ++ " argument " ++ quoted text)

def usualRow : Nat := 16

def wideRow : Nat := 32

/-- The bytes in a row, which must be whole fields of every format, and a warning if they cannot be
as asked for. -/
def rowSizeOf (flags : Flags) (formats : List DumpFormat) :
    Except String (Nat × Option String) := do
  let unit := (formats.map DumpFormat.size).foldl max 1
  match flags.value? 'w' with
  | none => return (usualRow, none)
  | some "" => return (wideRow, none)
  | some _ =>
    let size := (← flagCount flags 'w').getD usualRow
    if size = 0 || size % unit ≠ 0 then
      return (unit, some
        ("warning: invalid width " ++ toString size ++ "; using " ++ toString unit ++ " instead"))
    else return (size, none)

/-- What the flags of a dump ask for: the dump, how many bytes are passed over and how many are
shown at most, and a warning. -/
structure DumpRequest where
  dump : Dump
  skipped : Nat
  limit : Option Nat
  warning : Option String

def DumpRequest.ofFlags (flags : Flags) : Except String DumpRequest := do
  let address ← addressOf flags
  let skipped ← flagCount flags 'j'
  let limit ← flagCount flags 'N'
  let asked ← formatsOf flags.given
  let formats := if asked.isEmpty then [(octalFormat 2, false)] else asked
  let row ← rowSizeOf flags (formats.map Prod.fst)
  return ⟨⟨aligned row.1 formats, row.1, address, flags.has 'v'⟩, skipped.getD 0, limit, row.2⟩

/-- The bytes of the operands that can be read, whether any of them could be opened, and the code
for the others. -/
def readDump (call : Call) : List String → Program (ByteArray × Bool × UInt8)
  | [] => return (ByteArray.empty, false, 0)
  | name :: rest => do
    let content ← contentOf call name
    match content with
    | .error cause => reportInput call {} name cause
    | .ok _ => pure ()
    let others ← readDump call rest
    match content with
    | .ok data => return (data ++ others.1, true, others.2.2)
    | .error cause => return (others.1, cause = .isDirectory || others.2.1, 1)

def od : Tool := withFlags odFlags 1 fun call flags => do
  match DumpRequest.ofFlags flags with
  | .error problem => fail call 1 problem
  | .ok request => do
    let (data, opened, code) ← readDump call (orInput flags.operands)
    match request.warning with
    | some warning => report call warning
    | none => pure ()
    if !opened then return code
    if data.size < request.skipped then fail call 1 "cannot skip past end of combined input"
    else
      let bytes := (Bytes.toList data).drop request.skipped
      let shown := match request.limit with
        | some limit => bytes.take limit
        | none => bytes
      Program.put (String.join ((request.dump.text (shown.length + 1) request.skipped none false
        shown).map (· ++ "\n")))
      return code

end PipeShell.Machine.Tool
