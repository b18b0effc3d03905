import PipeShell.Text.Field

/-!
Byte strings as tools see them: cut into lines, compared byte by byte, written and read as numbers.
-/
namespace PipeShell.Machine.Bytes

def newline : UInt8 := 10

def ofList (bytes : List UInt8) : ByteArray := ⟨bytes.toArray⟩

def toList (bytes : ByteArray) : List UInt8 := bytes.data.toList

/-- Text of bytes, with a replacement character for each byte that is no ASCII if they are no
UTF-8. -/
def toText (bytes : ByteArray) : String :=
  match String.fromUTF8? bytes with
  | some text => text
  | none => String.ofList ((toList bytes).map fun byte =>
      if byte < 128 then Char.ofNat byte.toNat else '\uFFFD')

/-- One step of cutting: the place, the start of the current line and the lines so far. -/
def cutStep (data : ByteArray) (state : Nat × Nat × List ByteArray) (byte : UInt8) :
    Nat × Nat × List ByteArray :=
  let next := state.1 + 1
  if byte = newline then (next, next, data.extract state.2.1 next :: state.2.2)
  else (next, state.2)

/-- The lines with their newlines; the last one may lack it. -/
def lines (data : ByteArray) : List ByteArray :=
  let cut := data.foldl (cutStep data) (0, 0, [])
  let whole := cut.2.2
  (if cut.2.1 < data.size then data.extract cut.2.1 data.size :: whole else whole).reverse

def endsLine (line : ByteArray) : Bool := line.size > 0 && line.get! (line.size - 1) = newline

def chomp (line : ByteArray) : ByteArray :=
  if endsLine line then line.extract 0 (line.size - 1) else line

def terminated (line : ByteArray) : ByteArray := (chomp line).push newline

def bareLines (data : ByteArray) : List ByteArray := (lines data).map chomp

def compareFrom (a b : ByteArray) (place : Nat) : Ordering :=
  if place < a.size then
    if place < b.size then
      match compare (a.get! place) (b.get! place) with
      | .eq => compareFrom a b (place + 1)
      | other => other
    else .gt
  else if place < b.size then .lt else .eq
  termination_by a.size - place

def order (a b : ByteArray) : Ordering := compareFrom a b 0

def concat (parts : List ByteArray) : ByteArray := parts.foldl (· ++ ·) ByteArray.empty

def joined (separator : ByteArray) : List ByteArray → ByteArray
  | [] => ByteArray.empty
  | first :: rest => rest.foldl (fun soFar part => soFar ++ separator ++ part) first

def isDigit (byte : UInt8) : Bool := 48 ≤ byte && byte ≤ 57

def isUpper (byte : UInt8) : Bool := 65 ≤ byte && byte ≤ 90

def isLower (byte : UInt8) : Bool := 97 ≤ byte && byte ≤ 122

def isAlpha (byte : UInt8) : Bool := isUpper byte || isLower byte

def isAlnum (byte : UInt8) : Bool := isAlpha byte || isDigit byte

def isSpace (byte : UInt8) : Bool := byte = 32 || (9 ≤ byte && byte ≤ 13)

def isPrintable (byte : UInt8) : Bool := 32 ≤ byte && byte ≤ 126

def isGap (byte : UInt8) : Bool := byte = 32 || byte = 9

def toLower (byte : UInt8) : UInt8 := if isUpper byte then byte + 32 else byte

def toUpper (byte : UInt8) : UInt8 := if isLower byte then byte - 32 else byte

def total (numbers : List Nat) : Nat := numbers.foldl Nat.add 0

def padLeft (width : Nat) (text : String) : String :=
  String.ofList (List.replicate (width - text.length) ' ') ++ text

def padRight (width : Nat) (text : String) : String :=
  text ++ String.ofList (List.replicate (width - text.length) ' ')

def natOf? (text : String) : Option Nat :=
  if text.isEmpty || !text.all Char.isDigit then none
  else some (text.foldl (fun n c => n * 10 + (c.toNat - 48)) 0)

def intOf? (text : String) : Option Int :=
  match text.toList with
  | '-' :: rest => (natOf? (String.ofList rest)).map fun n => -(n : Int)
  | '+' :: rest => (natOf? (String.ofList rest)).map fun n => (n : Int)
  | _ => (natOf? text).map fun n => (n : Int)

def digits (base : Nat) (n : Nat) : String := String.ofList (Nat.toDigits base n)

def padZeros (width : Nat) (text : String) : String :=
  String.ofList (List.replicate (width - text.length) '0') ++ text

end PipeShell.Machine.Bytes
