import PipeShell.Machine.Tool.Input

/-!
Tools that change each line by itself: `fold` breaks lines that are too long, and `rev` turns lines
round.
-/
namespace PipeShell.Machine.Tool

/-- Where a byte leaves the column; a tab goes on to the next multiple of eight. -/
def columnAfter (bytesOnly : Bool) (column : Nat) (byte : UInt8) : Nat :=
  if bytesOnly then column + 1
  else if byte = 9 then column / 8 * 8 + 8
  else if byte = 8 then column - 1
  else if byte = 13 then 0
  else column + 1

/-- A line that is broken at a width, up to some byte: what is finished and what may still be
broken, both with the last byte first, and the column after them. -/
structure Folding where
  column : Nat := 0
  finished : List UInt8 := []
  pending : List UInt8 := []

/-- How lines are broken: whether bytes count, whether blanks are preferred, and the width. -/
structure FoldStyle where
  bytesOnly : Bool
  atBlanks : Bool
  width : Nat

/-- Breaks the pending part: behind its last blank if blanks are preferred and it has one, else at
its end. -/
def Folding.break (style : FoldStyle) (folding : Folding) : Folding :=
  let rest := folding.pending.takeWhile fun byte => !Bytes.isGap byte
  let front := folding.pending.drop rest.length
  if style.atBlanks && !front.isEmpty then
    { column := rest.foldr (fun byte column => columnAfter style.bytesOnly column byte) 0
      finished := Bytes.newline :: front ++ folding.finished
      pending := rest }
  else
    { column := 0
      finished := Bytes.newline :: folding.pending ++ folding.finished
      pending := [] }

def Folding.add (style : FoldStyle) (byte : UInt8) : Nat → Folding → Folding
  | 0, folding => { folding with pending := byte :: folding.pending }
  | breaks + 1, folding =>
    let column := columnAfter style.bytesOnly folding.column byte
    if column ≤ style.width || folding.pending.isEmpty then
      { folding with column := column, pending := byte :: folding.pending }
    else Folding.add style byte breaks (folding.break style)

/-- Room for a byte is made by a break behind a blank, and one more at the end. -/
def breakLimit : Nat := 3

def foldLine (style : FoldStyle) (line : ByteArray) : ByteArray :=
  let folding := (Bytes.chomp line).foldl
    (fun (folding : Folding) byte => folding.add style byte breakLimit) {}
  let text := Bytes.ofList (folding.pending ++ folding.finished).reverse
  if Bytes.endsLine line then text.push Bytes.newline else text

/-- Arguments in which a width such as `-5` is written as the value of a flag. -/
def withOldWidth (args : List String) : List String :=
  args.map fun arg =>
    match arg.toList with
    | '-' :: digits =>
      if digits.isEmpty || !digits.all Char.isDigit then arg else "-w" ++ String.ofList digits
    | _ => arg

def fold : Tool := fun call =>
  withFlags { plain := ['b', 's'], valued := ['w'], long := [("width", 'w')] } 1 (fun call flags =>
    let width := (flags.value? 'w').getD "80"
    match Bytes.natOf? width with
    | none => fail call 1 ("invalid number of columns: " ++ quoted width)
    | some 0 =>
      fail call 1 ("invalid number of columns: " ++ quoted width ++
        ": Numerical result out of range")
    | some width =>
      lineByLine call {} flags.operands (foldLine ⟨flags.has 'b', flags.has 's', width⟩))
    { call with args := withOldWidth call.args }

def reverseLine (line : ByteArray) : ByteArray :=
  let text := Bytes.ofList (Bytes.toList (Bytes.chomp line)).reverse
  if Bytes.endsLine line then text.push Bytes.newline else text

def rev : Tool := withFlags {} 1 fun call flags =>
  lineByLine call { opening := fun name cause => "cannot open " ++ name ++ ": " ++ cause.text }
    flags.operands reverseLine

end PipeShell.Machine.Tool
