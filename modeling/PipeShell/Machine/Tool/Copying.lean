import PipeShell.Machine.Tool.Amount
import PipeShell.Machine.Tool.Input

/-!
Tools that pass on what they read, whole or in part: `cat`, `head`, `tail`, `tac` and `tee`.
-/
namespace PipeShell.Machine.Tool

/-! ### All of it -/

/-- How `cat` writes a byte that is shown and not meant. -/
def visibleByte (byte : UInt8) : List UInt8 :=
  let low := byte &&& 127
  let shown : List UInt8 :=
    if low < 32 then [94, low + 64] else if low = 127 then [94, 63] else [low]
  if byte ≥ 128 then [77, 45] ++ shown else shown

structure CatStyle where
  number : Bool
  numberFilled : Bool
  squeeze : Bool
  ends : Bool
  tabs : Bool
  visible : Bool

def CatStyle.ofFlags (flags : Flags) : CatStyle where
  number := flags.has 'n'
  numberFilled := flags.has 'b'
  squeeze := flags.has 's'
  ends := flags.has 'E' || flags.has 'A' || flags.has 'e'
  tabs := flags.has 'T' || flags.has 'A' || flags.has 't'
  visible := flags.has 'v' || flags.has 'A' || flags.has 'e' || flags.has 't'

def CatStyle.isPlain (style : CatStyle) : Bool :=
  !(style.number || style.numberFilled || style.squeeze || style.ends || style.tabs ||
    style.visible)

def CatStyle.byte (style : CatStyle) (byte : UInt8) : List UInt8 :=
  if byte = 9 then (if style.tabs then [94, 73] else [9])
  else if style.visible then visibleByte byte
  else [byte]

/-- The state of a numbering `cat`: the last number, and whether the last line was empty. -/
def CatStyle.line (style : CatStyle) (state : Nat × Bool) (line : ByteArray) :
    (Nat × Bool) × ByteArray :=
  let text := Bytes.chomp line
  let isEmpty := text.isEmpty && Bytes.endsLine line
  if style.squeeze && isEmpty && state.2 then (state, ByteArray.empty)
  else
    let counted := if style.numberFilled then !isEmpty else style.number
    let number := if counted then state.1 + 1 else state.1
    let front := if counted then Bytes.padLeft 6 (toString number) ++ "\t" else ""
    let shown := Bytes.ofList ((Bytes.toList text).flatMap style.byte)
    let back := if Bytes.endsLine line then (if style.ends then "$\n" else "\n") else ""
    ((number, isEmpty), front.toUTF8 ++ shown ++ back.toUTF8)

def catFlags : FlagSet where
  plain := "nbsETAvetu".toList
  long := [("number", 'n'), ("number-nonblank", 'b'), ("squeeze-blank", 's'), ("show-ends", 'E'),
    ("show-tabs", 'T'), ("show-all", 'A'), ("show-nonprinting", 'v')]

def cat : Tool := withFlags catFlags 1 fun call flags => do
  let style := CatStyle.ofFlags flags
  if style.isPlain then
    let filter : Filter Unit := { step := fun state chunk => (state, chunk) }
    return (← filter.overOperands call {} () (orInput flags.operands)).2
  else
    let filter : LineFilter (Nat × Bool) := { line := style.line }
    return (← filter.run call {} (0, false) flags.operands).2

/-! ### The beginning -/

structure Extent where
  lines : Bool
  count : Nat
  /-- Whether the count was written with a minus sign. -/
  minus : Bool := false
  /-- Whether the count was written with a plus sign. -/
  plus : Bool := false

def Extent.of? (lines : Bool) (text : String) : Option Extent :=
  match text.toList with
  | '-' :: rest => (countOf? (String.ofList rest)).map fun n => ⟨lines, n, true, false⟩
  | '+' :: rest => (countOf? (String.ofList rest)).map fun n => ⟨lines, n, false, true⟩
  | _ => (countOf? text).map fun n => ⟨lines, n, false, false⟩

/-- Where the first `count` lines of a byte string end, and how many lines are missing. -/
def endOfLines (data : ByteArray) (count : Nat) : Nat × Nat :=
  let ends := data.foldl (fun (state : Nat × Nat × Nat) byte =>
    let place := state.1 + 1
    if state.2.2 = 0 then (place, state.2)
    else if byte = Bytes.newline then (place, place, state.2.2 - 1)
    else (place, state.2)) (0, 0, count)
  if ends.2.2 = 0 then (ends.2.1, 0) else (data.size, ends.2.2)

def Extent.first (extent : Extent) (data : ByteArray) : ByteArray :=
  if extent.lines then
    let count := if extent.minus then (Bytes.lines data).length - extent.count else extent.count
    data.extract 0 (endOfLines data count).1
  else
    data.extract 0 (if extent.minus then data.size - extent.count else extent.count)

/-- Passes on the first lines of the input and leaves the rest of it unread. -/
def headLines (count : Nat) : Program (Option OsError) :=
  Program.iterate (fun left => do
    if left = 0 then return .inr none
    match ← Program.readChunk with
    | .error cause => return .inr (some cause)
    | .ok chunk =>
      if chunk.isEmpty then return .inr none
      let stop := endOfLines chunk left
      Program.emit .out (chunk.extract 0 stop.1)
      if stop.2 = 0 && stop.1 < chunk.size then .unread (chunk.size - stop.1) (.done ())
      return .inl stop.2) Program.loopLimit count

def headBytes (count : Nat) : Program (Option OsError) :=
  Program.iterate (fun left => do
    if left = 0 then return .inr none
    match ← Program.read (min left Program.chunkSize) .done with
    | .error cause => return .inr (some cause)
    | .ok chunk =>
      if chunk.isEmpty then return .inr none
      Program.emit .out chunk
      return .inl (left - chunk.size)) Program.loopLimit count

def headErrors : InputErrors where
  opening name cause := "cannot open " ++ asWord name ++ " for reading: " ++ cause.text
  reading name cause :=
    "error reading " ++ asWord (if name = "-" then "standard input" else name) ++ ": " ++ cause.text

def titleLine (name : String) (isFirst : Bool) : String :=
  (if isFirst then "" else "\n") ++ "==> " ++ (if name = "-" then "standard input" else name) ++
    " <==\n"

/-- Shows a part of one operand, and tells whether there was anything to show a part of. -/
def showPart (call : Call) (part : ByteArray → ByteArray) (ofInput : Program (Option OsError))
    (title : String) (name : String) : Program (Bool × UInt8) := do
  match ← openOperand call name with
  | .refused cause => do
    if cause = .isDirectory then Program.put title
    reportInput call headErrors name cause
    return (cause = .isDirectory, 1)
  | .file data => do
    Program.put title
    Program.emit .out (part data)
    return (true, 0)
  | .input => do
    Program.put title
    match ← ofInput with
    | none => return (true, 0)
    | some cause => do
      reportInput call headErrors name cause
      return (true, 1)

def showParts (call : Call) (part : ByteArray → ByteArray) (ofInput : Program (Option OsError))
    (titled : Bool) (isFirst : Bool) : List String → Program UInt8
  | [] => return 0
  | name :: rest => do
    let title := if titled then titleLine name isFirst else ""
    let (shown, code) ← showPart call part ofInput title name
    let others ← showParts call part ofInput titled (isFirst && !shown) rest
    return if others = 0 then code else others

/-- Arguments in which a first `-5` is written as a count of lines. -/
def withOldCount (args : List String) : List String :=
  match args with
  | first :: rest =>
    match first.toList with
    | '-' :: digits =>
      if digits.isEmpty || !digits.all Char.isDigit then args
      else "-n" :: String.ofList digits :: rest
    | _ => args
  | [] => []

def partFlags : FlagSet where
  plain := "qvfrs".toList
  valued := ['n', 'c']
  long := [("lines", 'n'), ("bytes", 'c'), ("quiet", 'q'), ("verbose", 'v')]

/-- The extent that the flags ask for, or the text that is no count, without its minus sign. -/
def extentOf (flags : Flags) : Except (Bool × String) Extent :=
  match flags.given.reverse.find? fun entry => entry.1 = 'n' || entry.1 = 'c' with
  | none => .ok ⟨true, 10, false, false⟩
  | some (flag, text) =>
    match Extent.of? (flag = 'n') text with
    | some extent => .ok extent
    | none => .error (flag = 'n', if text.startsWith "-" then (text.drop 1).toString else text)

def badCount (call : Call) (bad : Bool × String) : Program UInt8 :=
  fail call 1 ("invalid number of " ++ (if bad.1 then "lines" else "bytes") ++ ": " ++ quoted bad.2)

def isTitled (flags : Flags) : Bool :=
  !flags.has 'q' && (flags.has 'v' || flags.operands.length > 1)

def head : Tool := fun call =>
  withFlags partFlags 1 (fun call flags =>
    match extentOf flags with
    | .error bad => badCount call bad
    | .ok extent =>
      let ofInput : Program (Option OsError) :=
        if extent.minus then do
          match ← Program.readAll with
          | .error cause => return some cause
          | .ok data => do
            Program.emit .out (extent.first data)
            return none
        else if extent.lines then headLines extent.count else headBytes extent.count
      showParts call extent.first ofInput (isTitled flags) true (orInput flags.operands))
    { call with args := withOldCount call.args }

/-! ### The end -/

def Extent.last (extent : Extent) (data : ByteArray) : ByteArray :=
  let skipped :=
    if extent.lines then
      let count := (Bytes.lines data).length
      (endOfLines data (if extent.plus then extent.count - 1 else count - extent.count)).1
    else if extent.plus then extent.count - 1 else data.size - extent.count
  data.extract skipped data.size

/-- Arguments in which a first `+5` is written as the line to begin with. -/
def withOldStart (args : List String) : List String :=
  match args with
  | first :: rest =>
    if first.startsWith "+" && (Bytes.intOf? first).isSome && rest.length ≤ 1 then
      "-n" :: first :: rest
    else args
  | [] => []

def tail : Tool := fun call =>
  withFlags partFlags 1 (fun call flags =>
    match extentOf flags with
    | .error bad => badCount call bad
    | .ok extent =>
      let ofInput : Program (Option OsError) := do
        match ← Program.readAll with
        | .error cause => return some cause
        | .ok data => do
          Program.emit .out (extent.last data)
          return none
      showParts call extent.last ofInput (isTitled flags) true (orInput flags.operands))
    { call with args := withOldStart (withOldCount call.args) }

def reversed (data : ByteArray) : ByteArray := Bytes.concat (Bytes.lines data).reverse

def tacErrors : InputErrors where
  opening name cause := "failed to open " ++ asWord name ++ " for reading: " ++ cause.text
  reading name cause :=
    asName (if name = "-" then "standard input" else name) ++ ": read error: " ++ cause.text

def tac : Tool := withFlags {} 1 fun call flags => do
  let read ← readOperands call tacErrors (orInput flags.operands)
  Program.emit .out (Bytes.concat (read.1.map reversed))
  return read.2

/-! ### Twice -/

def teeOpen (call : Call) (append : Bool) : List String → Program (List NodeId × UInt8)
  | [] => return ([], 0)
  | name :: rest => do
    let opened ←
      if append then Program.change (FileTree.appendFile call.directory name ByteArray.empty)
      else Program.change (FileTree.writeFile call.directory name (.bytes ByteArray.empty))
    let others ← teeOpen call append rest
    match opened, (← Program.tree).resolve call.directory name with
    | .ok (), .ok id => return (id :: others.1, others.2)
    | .error cause, _ | _, .error cause => do
      report call (asName name ++ ": " ++ cause.text)
      return (others.1, 1)

def teeWrite (chunk : ByteArray) : List NodeId → Program Unit
  | [] => return ()
  | id :: rest => do
    let _ ← Program.change (FileTree.appendTo id chunk)
    teeWrite chunk rest

def tee : Tool :=
    withFlags { plain := ['a', 'i'], long := [("append", 'a')] } 1 fun call flags => do
  let opened ← teeOpen call (flags.has 'a') flags.operands
  Program.iterate (fun (_ : Unit) => do
    match ← Program.readChunk with
    | .error cause => do
      report call ("read error: " ++ cause.text)
      return .inr 1
    | .ok chunk =>
      if chunk.isEmpty then return .inr opened.2
      teeWrite chunk opened.1
      Program.emit .out chunk
      return .inl ()) Program.loopLimit ()

end PipeShell.Machine.Tool
