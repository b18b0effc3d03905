import PipeShell.Machine.Bytes

/-!
Amounts as arguments give them: whole numbers with letters that multiply them, decimal numbers with
a point and an exponent, and times.
-/
namespace PipeShell.Machine.Tool

/-! ### Digits -/

def digitOf? (c : Char) : Option Nat :=
  if c.isDigit then some (c.toNat - 48)
  else if 'a' ≤ c && c ≤ 'f' then some (c.toNat - 87)
  else if 'A' ≤ c && c ≤ 'F' then some (c.toNat - 55)
  else none

/-- The digits of a base up to 16 at the front of a text. -/
def digitsIn (base : Nat) (text : List Char) : List Char :=
  text.takeWhile fun c => (digitOf? c).any (· < base)

def valueIn (base : Nat) (digits : List Char) : Nat :=
  digits.foldl (fun n c => n * base + (digitOf? c).getD 0) 0

/-! ### Whole numbers -/

def powerLetters : List Char := "KMGTPEZYRQ".toList

def multiplierOf? : List Char → Option Nat
  | [] => some 1
  | ['b'] => some 512
  | letter :: rest =>
    let letter := if letter = 'k' then 'K' else if letter = 'm' then 'M' else letter
    match powerLetters.idxOf? letter, rest with
    | some power, [] | some power, ['i', 'B'] => some (Nat.pow 1024 (power + 1))
    | some power, ['B'] => some (Nat.pow 1000 (power + 1))
    | _, _ => none

inductive CountFault where
  | noNumber
  | unknownLetters
  deriving DecidableEq, Repr

/-- A number times what the letters behind it say; letters alone stand for one of what they say. -/
def scaledCount (base : Nat) (digits letters : List Char) : Except CountFault Nat :=
  if digits.isEmpty && letters.isEmpty then .error .noNumber
  else match multiplierOf? letters with
    | some factor => .ok (factor * if digits.isEmpty then 1 else valueIn base digits)
    | none => .error (if digits.isEmpty then .noNumber else .unknownLetters)

def countOf? (text : String) : Option Nat :=
  let digits := digitsIn 10 text.toList
  (scaledCount 10 digits (text.toList.drop digits.length)).toOption

/-- The count that a text gives, in octal digits behind a zero and in hexadecimal ones behind
`0x`. -/
def basedCount (text : String) : Except CountFault Nat :=
  let within (base : Nat) (letters : List Char) : Except CountFault Nat :=
    let digits := digitsIn base letters
    scaledCount base digits (letters.drop digits.length)
  match text.toList with
  | '0' :: 'x' :: rest | '0' :: 'X' :: rest =>
    if (digitsIn 16 rest).isEmpty then .error .unknownLetters else within 16 rest
  | '0' :: rest => within 8 ('0' :: rest)
  | letters => within 10 letters

/-! ### Decimal numbers -/

structure Decimal where
  negative : Bool := false
  /-- The digits in front of the point. -/
  whole : List Char
  /-- The digits behind the point. -/
  decimals : List Char := []
  exponent : Option Int := none

namespace Decimal

def exponentIn (text : List Char) : Option Int × List Char :=
  match text with
  | 'e' :: rest | 'E' :: rest =>
    let negative := rest.head? = some '-'
    let unsigned := if negative || rest.head? = some '+' then rest.drop 1 else rest
    let digits := digitsIn 10 unsigned
    if digits.isEmpty then (none, text)
    else
      let size : Int := valueIn 10 digits
      (some (if negative then -size else size), unsigned.drop digits.length)
  | _ => (none, text)

/-- The number at the front of a text, after any blanks, and what follows it. -/
def read? (text : List Char) : Option (Decimal × List Char) :=
  let text := text.dropWhile Char.isWhitespace
  let negative := text.head? = some '-'
  let unsigned := if negative || text.head? = some '+' then text.drop 1 else text
  let whole := digitsIn 10 unsigned
  let rest := unsigned.drop whole.length
  let pointed := rest.head? = some '.'
  let decimals := if pointed then digitsIn 10 (rest.drop 1) else []
  if whole.isEmpty && decimals.isEmpty then none
  else
    let exponent := exponentIn (if pointed then rest.drop (decimals.length + 1) else rest)
    some (⟨negative, whole, decimals, exponent.1⟩, exponent.2)

def exponentLimit : Nat := 400

/-- The digits of a number, and the power of ten that they are multiplied by. -/
def parts (number : Decimal) : Nat × Int :=
  let exponent := max (-(exponentLimit : Int)) (min exponentLimit (number.exponent.getD 0))
  (valueIn 10 (number.whole ++ number.decimals), exponent - number.decimals.length)

def fraction (number : Decimal) : Nat × Nat :=
  let parts := number.parts
  (parts.1 * Nat.pow 10 parts.2.toNat, Nat.pow 10 (-parts.2).toNat)

def places (number : Decimal) : Nat := (number.decimals.length - number.exponent.getD 0).toNat

/-- The value in units of a power of ten that is as small as the places, or smaller. -/
def scaled (number : Decimal) (places : Nat) : Int :=
  let parts := number.parts
  let size : Int := parts.1 * Nat.pow 10 (parts.2 + places).toNat
  if number.negative then -size else size

end Decimal

/-- Writes a number of units as a decimal number, with so many digits behind the point. -/
def decimalText (places : Nat) (units : Int) : String :=
  let digits := Bytes.padZeros (places + 1) (toString units.natAbs)
  let whole := String.ofList (digits.toList.take (digits.length - places))
  let decimals := String.ofList (digits.toList.drop (digits.length - places))
  (if units < 0 then "-" else "") ++ whole ++ (if places = 0 then "" else "." ++ decimals)

/-! ### Times -/

/-- Whether a text gives a length of time: a number that is not negative, with a letter for its
unit. -/
def isTime (text : String) : Bool :=
  match Decimal.read? text.toList with
  | none => text = "inf" || text = "infinity"
  | some (number, unit) =>
    (!number.negative || number.parts.1 = 0) &&
      ["", "s", "m", "h", "d"].contains (String.ofList unit)

end PipeShell.Machine.Tool
