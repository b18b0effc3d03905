import PipeShell.Machine.Tool.Amount
import PipeShell.Machine.Tool.Input
import PipeShell.Machine.Tool.Translation

/-!
Text with escapes and formats with arguments, as `echo` and `printf` write them.
-/
namespace PipeShell.Machine.Tool.Format

/-! ### Escapes -/

structure Escapes where
  hex : Bool
  /-- Whether octal digits may follow the backslash at once. -/
  bareOctal : Bool
  /-- Whether a zero in front of octal digits counts for none of the three. -/
  leadingZero : Bool
  /-- How many bits a number with a fraction has. -/
  fractionBits : Nat := 64

def octalValue (digits : List UInt8) : UInt8 :=
  UInt8.ofNat (digits.foldl (fun (n : Nat) b => n * 8 + (b.toNat - 48)) 0)

def hexDigit? (byte : UInt8) : Option Nat :=
  if Bytes.isDigit byte then some (byte.toNat - 48)
  else
    let lower := Bytes.toLower byte
    if 97 ≤ lower && lower ≤ 102 then some (lower.toNat - 87) else none

/-- What an escape puts out, what follows it, and whether all output ends here. -/
def escape (style : Escapes) (bytes : List UInt8) : List UInt8 × List UInt8 × Bool :=
  let octal := (bytes.take 3).takeWhile isOctal
  match bytes with
  | 48 :: rest =>
    if style.leadingZero then
      let digits := (rest.take 3).takeWhile isOctal
      ([octalValue digits], rest.drop digits.length, false)
    else ([octalValue octal], bytes.drop octal.length, false)
  | 99 :: rest => ([], rest, true)
  | 110 :: rest => ([10], rest, false)
  | 116 :: rest => ([9], rest, false)
  | 114 :: rest => ([13], rest, false)
  | 97 :: rest => ([7], rest, false)
  | 98 :: rest => ([8], rest, false)
  | 101 :: rest => if style.hex then ([27], rest, false) else ([92, 101], rest, false)
  | 102 :: rest => ([12], rest, false)
  | 118 :: rest => ([11], rest, false)
  | 92 :: rest => ([92], rest, false)
  | 120 :: rest =>
    let digits := ((rest.take 2).map hexDigit?).takeWhile Option.isSome
    if style.hex && !digits.isEmpty then
      let value := digits.foldl (fun n d => n * 16 + d.getD 0) 0
      ([UInt8.ofNat value], rest.drop digits.length, false)
    else ([92, 120], rest, false)
  | other :: rest =>
    if style.bareOctal && !octal.isEmpty then ([octalValue octal], bytes.drop octal.length, false)
    else ([92, other], rest, false)
  | [] => ([92], [], false)

def unescape (style : Escapes) : Nat → List UInt8 → List UInt8 × Bool
  | 0, _ => ([], false)
  | _ + 1, [] => ([], false)
  | fuel + 1, 92 :: rest =>
    match escape style rest with
    | (out, _, true) => (out, true)
    | (out, after, false) =>
      let others := unescape style fuel after
      (out ++ others.1, others.2)
  | fuel + 1, byte :: rest =>
    let others := unescape style fuel rest
    (byte :: others.1, others.2)

def unescapeText (style : Escapes) (text : String) : List UInt8 × Bool :=
  let bytes := Bytes.toList text.toUTF8
  unescape style (bytes.length + 1) bytes

/-! ### Formats -/

inductive Complaint where
  | noNumber (argument : String)
  | leftOver (argument : String)
  | outOfRange (argument : String)
  | unknownDirective (written : String)
  | unfinishedDirective
  deriving DecidableEq, Repr

def Complaint.ofFormat : Complaint → Bool
  | .unknownDirective _ | .unfinishedDirective => true
  | _ => false

/-- What a format has put out so far: bytes, complaints, and whether it ended early. -/
structure Written where
  out : ByteArray := ByteArray.empty
  complaints : List Complaint := []
  ended : Bool := false

structure Directive where
  left : Bool := false
  zeros : Bool := false
  plus : Bool := false
  gap : Bool := false
  alternate : Bool := false
  width : Nat := 0
  precision : Option Nat := none

/-- The number that an argument stands for: decimal, hexadecimal, octal, or the code of a character
after a quote. What follows the number is left over. -/
def numberOf (text : String) : Int × List Char :=
  match text.toList with
  | '\'' :: c :: _ | '"' :: c :: _ => (c.toNat, [])
  | chars =>
    let chars := chars.dropWhile Char.isWhitespace
    let negative := chars.head? = some '-'
    let unsigned := if negative || chars.head? = some '+' then chars.drop 1 else chars
    let read : Nat × List Char := match unsigned with
      | '0' :: 'x' :: rest | '0' :: 'X' :: rest =>
        let digits := digitsIn 16 rest
        (valueIn 16 digits, rest.drop digits.length)
      | '0' :: rest =>
        let digits := digitsIn 8 rest
        (valueIn 8 digits, rest.drop digits.length)
      | _ =>
        let digits := digitsIn 10 unsigned
        (valueIn 10 digits,
          if digits.isEmpty then unsigned ++ ['?'] else unsigned.drop digits.length)
    (if negative then -(read.1 : Int) else (read.1 : Int), read.2)

/-- The complaint about an argument with something left over behind its number. -/
def complaintOf (text : String) (rest : List Char) : Option Complaint :=
  if text.isEmpty || rest.isEmpty then none
  else if (text.toList.dropWhile fun c => c = '-' || c = '+').head?.any Char.isDigit then
    some (.leftOver text)
  else some (.noNumber text)

def boundedNumber (least most : Int) (text : String) : Int × Option Complaint :=
  let read := numberOf text
  if read.1 < least then (least, some (.outOfRange text))
  else if most < read.1 then (most, some (.outOfRange text))
  else (read.1, complaintOf text read.2)

def signedNumber (text : String) : Int × Option Complaint :=
  boundedNumber Int64.minValue.toInt Int64.maxValue.toInt text

def unsignedNumber (text : String) : Int × Option Complaint :=
  let most : Int := (1 <<< 64 : Nat) - 1
  boundedNumber (-most) most text

def Directive.pad (directive : Directive) (bytes : List UInt8) : List UInt8 :=
  let gap := List.replicate (directive.width - bytes.length) 32
  if directive.left then bytes ++ gap else gap ++ bytes

/-- Writes a number: sign, zeros up to the precision or the width, and digits. -/
def Directive.number (directive : Directive) (sign digits : String) : List UInt8 :=
  let digits := Bytes.padZeros (directive.precision.getD 1) digits
  let room := if directive.zeros && !directive.left && directive.precision.isNone then
      directive.width - sign.length else 0
  directive.pad (Bytes.toList (sign ++ Bytes.padZeros room digits).toUTF8)

def Directive.signed (directive : Directive) (value : Int) : List UInt8 :=
  let sign := if value < 0 then "-" else if directive.plus then "+" else if directive.gap then " "
    else ""
  directive.number sign (toString value.natAbs)

def unsignedOf (value : Int) : Nat := (Int64.ofInt value).toUInt64.toNat

def directiveFlags (directive : Directive) : List UInt8 → Directive × List UInt8
  | 45 :: rest => directiveFlags { directive with left := true } rest
  | 48 :: rest => directiveFlags { directive with zeros := true } rest
  | 43 :: rest => directiveFlags { directive with plus := true } rest
  | 32 :: rest => directiveFlags { directive with gap := true } rest
  | 35 :: rest => directiveFlags { directive with alternate := true } rest
  | rest => (directive, rest)

def sizeOf (format : List UInt8) (args : List String) : Int × List UInt8 × List String :=
  match format with
  | 42 :: rest => ((numberOf (args.headD "0")).1, rest, args.drop 1)
  | _ =>
    let digits := format.takeWhile Bytes.isDigit
    (digits.foldl (fun (n : Int) b => n * 10 + (b.toNat - 48)) 0, format.drop digits.length, args)

def directive (format : List UInt8) (args : List String) : Directive × List UInt8 × List String :=
  let flagged := directiveFlags {} format
  let width := sizeOf flagged.2 args
  let sized := { flagged.1 with
    width := width.1.natAbs, left := flagged.1.left || width.1 < 0 }
  match width.2.1 with
  | 46 :: rest =>
    let precision := sizeOf rest width.2.2
    ({ sized with precision := if precision.1 < 0 then none else some precision.1.toNat },
      precision.2.1.dropWhile (· = 108), precision.2.2)
  | rest => (sized, rest.dropWhile (· = 108), width.2.2)

/-! ### Numbers with a fraction -/

/-- A quotient as the nearest whole number; a half goes to the even neighbour. -/
def roundQuotient (top bottom : Nat) : Nat :=
  let whole := top / bottom
  let rest := 2 * (top % bottom)
  if rest < bottom || (rest = bottom && whole % 2 = 0) then whole else whole + 1

/-- A fraction as the nearest one whose top has so many bits, above or below a power of two. -/
def roundBinary (bits top bottom : Nat) : Nat × Nat :=
  if top = 0 || bottom = 0 then (0, 1)
  else
    let size := (Nat.log2 top : Int) - Nat.log2 bottom
    let isBelow := top <<< (-size).toNat < bottom <<< size.toNat
    let shift := (bits : Int) - 1 - size + if isBelow then 1 else 0
    let rounded := roundQuotient (top <<< shift.toNat) (bottom <<< (-shift).toNat)
    (rounded <<< (-shift).toNat, 1 <<< shift.toNat)

/-- The number with a fraction that an argument stands for: whether it is negative, its absolute
value in so many bits, and what is left over behind it. -/
def fractionOf (bits : Nat) (text : String) : Bool × (Nat × Nat) × List Char :=
  match Decimal.read? text.toList with
  | some (number, rest) =>
    (number.negative, roundBinary bits number.fraction.1 number.fraction.2, rest)
  | none => (false, (0, 1), text.toList ++ ['?'])

def fixedText (places : Nat) (number : Nat × Nat) : String :=
  decimalText places (roundQuotient (number.1 * Nat.pow 10 places) number.2)

/-- The digits of a fraction, one in front of the point and so many behind it, and its exponent. -/
def scientific (places : Nat) (number : Nat × Nat) : Nat × Int :=
  if number.1 = 0 then (0, 0)
  else
    let guess : Int := (toString number.1).length - (toString number.2).length
    let isBelow := number.1 * Nat.pow 10 (-guess).toNat < number.2 * Nat.pow 10 guess.toNat
    let exponent := if isBelow then guess - 1 else guess
    let shift := places - exponent
    let digits := roundQuotient (number.1 * Nat.pow 10 shift.toNat)
      (number.2 * Nat.pow 10 (-shift).toNat)
    if digits = Nat.pow 10 (places + 1) then (digits / 10, exponent + 1) else (digits, exponent)

def exponentText (exponent : Int) : String :=
  "e" ++ (if exponent < 0 then "-" else "+") ++ Bytes.padZeros 2 (toString exponent.natAbs)

def withoutZeros (text : String) : String :=
  if text.contains '.' then
    let kept := text.toList.reverse.dropWhile (· = '0')
    String.ofList (if kept.head? = some '.' then kept.drop 1 else kept).reverse
  else text

/-- A fraction in digits that count from the first one that is no zero, with an exponent only where
it is far from one. -/
def generalText (digits : Nat) (keepZeros : Bool) (number : Nat × Nat) : String :=
  let trim := if keepZeros then id else withoutZeros
  let read := scientific (digits - 1) number
  if -4 ≤ read.2 && read.2 < digits then trim (fixedText (digits - 1 - read.2).toNat number)
  else trim (decimalText (digits - 1) read.1) ++ exponentText read.2

def Directive.fraction (directive : Directive) (letter : UInt8) (negative : Bool)
    (number : Nat × Nat) : List UInt8 :=
  let places := directive.precision.getD 6
  let body := match Bytes.toLower letter with
    | 101 =>
      let read := scientific places number
      decimalText places read.1 ++ exponentText read.2
    | 103 => generalText (max places 1) directive.alternate number
    | _ => fixedText places number
  let body := if Bytes.isUpper letter then body.toUpper else body
  let sign :=
    if negative then "-" else if directive.plus then "+" else if directive.gap then " " else ""
  let room := if directive.zeros && !directive.left then directive.width - sign.length else 0
  directive.pad (Bytes.toList (sign ++ Bytes.padZeros room body).toUTF8)

/-- What one directive writes for its argument: bytes, a complaint, and whether output ends. -/
def Directive.write (style : Escapes) (directive : Directive) (letter : UInt8) (arg : String) :
    Option (List UInt8 × Option Complaint × Bool) :=
  let clip (bytes : List UInt8) : List UInt8 := match directive.precision with
    | some n => bytes.take n
    | none => bytes
  let unsigned := unsignedNumber arg
  let value := unsigned.1
  match letter with
  | 115 => some (directive.pad (clip (Bytes.toList arg.toUTF8)), none, false)
  | 98 =>
    let text := unescapeText { style with leadingZero := true } arg
    some (directive.pad (clip text.1), none, text.2)
  | 99 => some (directive.pad ((Bytes.toList arg.toUTF8).take 1), none, false)
  | 100 | 105 => some (directive.signed (signedNumber arg).1, (signedNumber arg).2, false)
  | 101 | 102 | 103 | 69 | 70 | 71 =>
    let read := fractionOf style.fractionBits arg
    some (directive.fraction letter read.1 read.2.1, complaintOf arg read.2.2, false)
  | 117 => some (directive.number "" (toString (unsignedOf value)), unsigned.2, false)
  | 120 => some (directive.number (if directive.alternate && value ≠ 0 then "0x" else "")
      (Bytes.digits 16 (unsignedOf value)), unsigned.2, false)
  | 88 => some (directive.number (if directive.alternate && value ≠ 0 then "0X" else "")
      (Bytes.digits 16 (unsignedOf value)).toUpper, unsigned.2, false)
  | 111 => some (directive.number (if directive.alternate && value ≠ 0 then "0" else "")
      (Bytes.digits 8 (unsignedOf value)), unsigned.2, false)
  | _ => none

def once (style : Escapes) : Nat → List UInt8 → List String → Written → Written × List String
  | 0, _, args, written => (written, args)
  | _ + 1, [], args, written => (written, args)
  | fuel + 1, 37 :: 37 :: rest, args, written =>
    once style fuel rest args { written with out := written.out.push 37 }
  | fuel + 1, 37 :: rest, args, written =>
    let read := directive rest args
    match read.2.1 with
    | [] =>
      let complaints := written.complaints ++ [.unfinishedDirective]
      ({ written with complaints := complaints, ended := true }, args)
    | letter :: after =>
      match read.1.write style letter (read.2.2.headD "") with
      | none => ({ written with
          complaints := written.complaints ++ [.unknownDirective
            ("%" ++ Bytes.toText (Bytes.ofList (rest.take (rest.length - after.length))))]
          ended := true }, args)
      | some (bytes, problem, stops) =>
        let next := { written with
          out := written.out ++ Bytes.ofList bytes
          complaints := written.complaints ++ problem.toList
          ended := stops }
        if stops then (next, []) else once style fuel after (read.2.2.drop 1) next
  | fuel + 1, 92 :: rest, args, written =>
    match escape style rest with
    | (bytes, _, true) =>
      ({ written with out := written.out ++ Bytes.ofList bytes, ended := true }, [])
    | (bytes, after, false) =>
      once style fuel after args { written with out := written.out ++ Bytes.ofList bytes }
  | fuel + 1, byte :: rest, args, written =>
    once style fuel rest args { written with out := written.out.push byte }

def all (style : Escapes) (format : List UInt8) : Nat → List String → Written → Written
  | 0, _, written => written
  | fuel + 1, args, written =>
    let after := once style (format.length + 1) format args written
    if after.1.ended || after.2.isEmpty || after.2.length = args.length then after.1
    else all style format fuel after.2 after.1

def text (style : Escapes) (format : String) (args : List String) : Written :=
  all style (Bytes.toList format.toUTF8) (args.length + 1) args {}

end Format

open Format

def toolEscapes : Escapes := ⟨true, true, false, 64⟩

def Format.Complaint.message : Complaint → String
  | .noNumber argument => quoted argument ++ ": expected a numeric value"
  | .leftOver argument => quoted argument ++ ": value not completely converted"
  | .outOfRange argument => quoted argument ++ ": Numerical result out of range"
  | .unknownDirective written => written ++ ": invalid conversion specification"
  | .unfinishedDirective => "%: invalid conversion specification"

def reportAll (call : Call) : List Complaint → Program Unit
  | [] => return ()
  | problem :: rest => do
    report call problem.message
    reportAll call rest

def printf : Tool := fun call =>
  let args := if call.args.head? = some "--" then call.args.drop 1 else call.args
  match args with
  | [] => misuse call 1 "missing operand"
  | format :: rest => do
    let written := Format.text toolEscapes format rest
    Program.emit .out written.out
    reportAll call written.complaints
    return if written.complaints.isEmpty then 0 else 1

/-- The flags in front of what `echo` says, each a dash with letters that it knows. -/
def echoFlags : List String → List Char × List String
  | [] => ([], [])
  | arg :: rest =>
    match arg.toList with
    | '-' :: letters =>
      if letters.isEmpty || !letters.all (fun c => c = 'n' || c = 'e' || c = 'E') then
        ([], arg :: rest)
      else
        let others := echoFlags rest
        (letters ++ others.1, others.2)
    | _ => ([], arg :: rest)

def echo : Tool := fun call => do
  let read := echoFlags call.args
  let text := String.intercalate " " read.2
  let interpreted := (read.1.reverse.find? fun c => c = 'e' || c = 'E') = some 'e'
  let shown := if interpreted then unescapeText ⟨true, false, true, 64⟩ text
    else (Bytes.toList text.toUTF8, false)
  let back := if read.1.contains 'n' || shown.2 then [] else [Bytes.newline]
  Program.emit .out (Bytes.ofList (shown.1 ++ back))
  return 0

end PipeShell.Machine.Tool
