import PipeShell.Machine.Bytes

/-!
How tools write the names and texts of their users in messages, so that nobody takes them for words
of the message: in quotes with escapes, or in a form that a script would read back.
-/
namespace PipeShell.Machine.Tool

def escapeOf? (byte : UInt8) : Option String :=
  match byte with
  | 7 => some "\\a"
  | 8 => some "\\b"
  | 9 => some "\\t"
  | 10 => some "\\n"
  | 11 => some "\\v"
  | 12 => some "\\f"
  | 13 => some "\\r"
  | _ => if Bytes.isPrintable byte then none
    else some ("\\" ++ Bytes.padZeros 3 (Bytes.digits 8 byte.toNat))

def shownByte (byte : UInt8) : String := (Char.ofNat byte.toNat).toString

def quoted (text : String) : String :=
  "'" ++ String.join ((Bytes.toList text.toUTF8).map fun byte =>
    match escapeOf? byte with
    | some escape => escape
    | none => (if byte = 39 || byte = 92 then "\\" else "") ++ shownByte byte) ++ "'"

/-! ### Words of a script -/

def scriptSigns : List UInt8 := Bytes.toList " !\"$&'()*;<=>?[\\^\x60|".toUTF8

/-- Whether a byte of a text means something to a script: some do so at the front only, and braces
only if they stand alone. -/
def isScriptSign (bytes : List UInt8) (place : Nat) (byte : UInt8) : Bool :=
  scriptSigns.contains byte || (escapeOf? byte).isSome ||
    (place = 0 && (byte = 35 || byte = 126)) ||
    (bytes.length = 1 && (byte = 123 || byte = 125))

def isSameInQuotes (bytes : List UInt8) (place : Nat) (byte : UInt8) : Bool :=
  byte = 32 || byte = 39 || (bytes.length = 1 && (byte = 123 || byte = 125)) ||
    (place = 0 && (byte = 35 || byte = 126)) ||
    (Bytes.isPrintable byte && !scriptSigns.contains byte && byte ≠ 35 && byte ≠ 126 &&
      byte ≠ 123 && byte ≠ 125)

/-- The bytes behind an opening quote, up to the closing one. Escapes stand in quotes of their
own. -/
def insideQuotes (escaping : Bool) : List UInt8 → String
  | [] => "'"
  | byte :: rest =>
    if byte = 39 then "'\\''" ++ insideQuotes false rest
    else match escapeOf? byte with
      | some escape => (if escaping then "" else "'$'") ++ escape ++ insideQuotes true rest
      | none => (if escaping then "''" else "") ++ shownByte byte ++ insideQuotes false rest

def asWord (text : String) : String :=
  let bytes := Bytes.toList text.toUTF8
  if bytes.contains 39 && bytes.zipIdx.all fun entry => isSameInQuotes bytes entry.2 entry.1 then
    "\"" ++ text ++ "\""
  else "'" ++ insideQuotes false bytes

/-- A text as a word in front of a colon, which is quoted only if it has to be. -/
def asName (text : String) : String :=
  let bytes := Bytes.toList text.toUTF8
  if bytes.isEmpty || bytes.contains 58 ||
      bytes.zipIdx.any fun entry => isScriptSign bytes entry.2 entry.1 then asWord text
  else text

end PipeShell.Machine.Tool
