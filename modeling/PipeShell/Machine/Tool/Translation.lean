import PipeShell.Machine.Tool.Input

/-!
The tool `tr`: bytes are replaced, deleted, or squeezed. A set of bytes is written with ranges,
escapes and named classes.
-/
namespace PipeShell.Machine.Tool

def byteRange (first last : Nat) : List UInt8 :=
  (List.range (last + 1 - first)).map fun n => UInt8.ofNat (first + n)

def allBytes : List UInt8 := byteRange 0 255

def byteClass? (name : String) : Option (List UInt8) :=
  match name with
  | "alpha" => some (allBytes.filter Bytes.isAlpha)
  | "digit" => some (allBytes.filter Bytes.isDigit)
  | "alnum" => some (allBytes.filter Bytes.isAlnum)
  | "upper" => some (allBytes.filter Bytes.isUpper)
  | "lower" => some (allBytes.filter Bytes.isLower)
  | "space" => some (allBytes.filter Bytes.isSpace)
  | "blank" => some (allBytes.filter Bytes.isGap)
  | "punct" => some (allBytes.filter fun b => 33 ≤ b && b ≤ 126 && !Bytes.isAlnum b)
  | "print" => some (byteRange 32 126)
  | "graph" => some (byteRange 33 126)
  | "cntrl" => some (allBytes.filter fun b => b < 32 || b = 127)
  | "xdigit" => some (allBytes.filter fun b =>
      Bytes.isDigit b || (65 ≤ b && b ≤ 70) || (97 ≤ b && b ≤ 102))
  | _ => none

def isOctal (byte : UInt8) : Bool := 48 ≤ byte && byte ≤ 55

def octalNumber (digits : List UInt8) : Nat := digits.foldl (fun n b => n * 8 + (b.toNat - 48)) 0

/-- The byte that an escape stands for, and what follows it. Digits for more than a byte are too
many. -/
def escaped (bytes : List UInt8) : UInt8 × List UInt8 :=
  let digits := (bytes.take 3).takeWhile isOctal
  let digits := if 255 < octalNumber digits then digits.take 2 else digits
  if !digits.isEmpty then (UInt8.ofNat (octalNumber digits), bytes.drop digits.length)
  else match bytes with
    | 110 :: rest => (10, rest)
    | 116 :: rest => (9, rest)
    | 114 :: rest => (13, rest)
    | 97 :: rest => (7, rest)
    | 98 :: rest => (8, rest)
    | 102 :: rest => (12, rest)
    | 118 :: rest => (11, rest)
    | other :: rest => (other, rest)
    | [] => (92, [])

/-! ### Sets -/

inductive SetItem where
  /-- A single byte, with whether it was written as it is. -/
  | byte (value : UInt8) (isPlain : Bool)
  | range (first last : UInt8)
  | named (name : String) (members : List UInt8)
  /-- A byte that stands for all bytes like it, of which there is none but itself. -/
  | equivalents (value : UInt8)
  | copies (value : UInt8) (count : Nat)
  /-- As many copies as there is room for. -/
  | filling (value : UInt8)

namespace SetItem

def members (room : Nat) : SetItem → List UInt8
  | byte value _ => [value]
  | range first last => byteRange first.toNat last.toNat
  | named _ members => members
  | equivalents value => [value]
  | copies value count => List.replicate count value
  | filling value => List.replicate room value

def isNamed : SetItem → Bool
  | named _ _ => true
  | _ => false

def isEquivalents : SetItem → Bool
  | equivalents _ => true
  | _ => false

def isFilling : SetItem → Bool
  | filling _ => true
  | _ => false

def hasCase : SetItem → Bool
  | named name _ => name = "upper" || name = "lower"
  | _ => false

end SetItem

/-- The text up to `sign` and a closing bracket, and what follows these. -/
def upToClosing (sign : UInt8) : List UInt8 → Option (List UInt8 × List UInt8)
  | [] => none
  | byte :: rest =>
    if byte = sign && rest.head? = some 93 then some ([], rest.drop 1)
    else (upToClosing sign rest).map fun found => (byte :: found.1, found.2)

/-- The item that stands behind an opening bracket, and what follows it; nothing if the bracket
stands for itself. -/
def bracketItem (bytes : List UInt8) : Except String (Option (SetItem × List UInt8)) :=
  match bytes with
  | 58 :: rest =>
    match upToClosing 58 rest with
    | none => .ok none
    | some (name, after) =>
      let name := Bytes.toText (Bytes.ofList name)
      match byteClass? name with
      | some members => .ok (some (.named name members, after))
      | none =>
        .error (if name.isEmpty then "missing character class name '[::]'"
          else "invalid character class '" ++ name ++ "'")
  | 61 :: rest =>
    match upToClosing 61 rest with
    | none => .ok none
    | some ([value], after) => .ok (some (.equivalents value, after))
    | some (several, _) =>
      .error (if several.isEmpty then "missing equivalence class character '[==]'"
        else Bytes.toText (Bytes.ofList several) ++
          ": equivalence class operand must be a single character")
  | value :: 42 :: rest =>
    let digits := rest.takeWhile (· ≠ 93)
    if digits.length = rest.length then .ok none
    else if !digits.all Bytes.isDigit then
      .error ("invalid repeat count " ++ quoted (Bytes.toText (Bytes.ofList digits)) ++
        " in [c*n] construct")
    else
      let base := if digits.head? = some 48 then 8 else 10
      let count := digits.foldl (fun (n : Nat) b => n * base + (b.toNat - 48)) 0
      let item := if count = 0 then SetItem.filling value else .copies value count
      .ok (some (item, rest.drop (digits.length + 1)))
  | _ => .ok none

def setItems : Nat → List UInt8 → Except String (List SetItem)
  | 0, _ | _, [] => .ok []
  | fuel + 1, 92 :: rest => do
    let (value, after) := escaped rest
    return .byte value false :: (← setItems fuel after)
  | fuel + 1, 91 :: rest => do
    match ← bracketItem rest with
    | some (item, after) => return item :: (← setItems fuel after)
    | none => return .byte 91 true :: (← setItems fuel rest)
  | fuel + 1, value :: rest => do return .byte value true :: (← setItems fuel rest)

/-- Replaces each plain dash between two bytes by a range; the bytes of a range that runs backwards
are told apart. -/
def withRanges : List SetItem → Except (UInt8 × UInt8) (List SetItem)
  | .byte first _ :: .byte 45 true :: .byte last _ :: rest => do
    if last < first then throw (first, last)
    else return .range first last :: (← withRanges rest)
  | item :: rest => do return item :: (← withRanges rest)
  | [] => .ok []

def readSet (text : String) : Except String (List SetItem) := do
  let bytes := Bytes.toList text.toUTF8
  match withRanges (← setItems bytes.length bytes) with
  | .ok items => return items
  | .error (first, last) =>
    throw ("range-endpoints of '" ++ Bytes.toText (Bytes.ofList [first, 45, last]) ++
      "' are in reverse collating sequence order")

/-- The bytes of a set in the order in which they are written, filled up to a size if it says so. -/
def bytesOfSet (size : Nat) (items : List SetItem) : List UInt8 :=
  let known := items.flatMap (SetItem.members 0)
  items.flatMap (SetItem.members (size - known.length))

def casePlaces (place : Nat) : List SetItem → List Nat
  | [] => []
  | item :: rest =>
    (if item.hasCase then [place] else []) ++ casePlaces (place + (item.members 0).length) rest

def complementOf (set : List UInt8) : List UInt8 := allBytes.filter fun byte => !set.contains byte

/-- What is wrong with two sets of which the first is translated into the second. -/
def translationFault? (complement truncate : Bool) (first second : List SetItem) : Option String :=
  let set := bytesOfSet 0 first
  let size := (if complement then complementOf set else set).length
  let isShort := (bytesOfSet size second).length < size
  let cases := casePlaces 0 first
  if second.countP SetItem.isFilling > 1 then
    some "only one [c*] repeat construct may appear in string2"
  else if second.any SetItem.isEquivalents then
    some "[=c=] expressions may not appear in string2 when translating"
  else if second.any fun item => item.isNamed && !item.hasCase then
    some ("when translating, the only character classes that may appear in\n" ++
      "string2 are 'upper' and 'lower'")
  else if !complement && (casePlaces 0 second).any fun place => !cases.contains place then
    some "misaligned [:upper:] and/or [:lower:] construct"
  else if isShort && !truncate && second.isEmpty then
    some "when not truncating set1, string2 must be non-empty"
  else if isShort && !truncate && second.getLast?.any SetItem.isNamed then
    some ("when translating with string1 longer than string2,\n" ++
      "the latter string must not end with a character class")
  else if complement && first.any SetItem.isNamed && (bytesOfSet 1 second).eraseDups.length > 1 then
    some ("when translating with complemented character classes,\n" ++
      "string2 must map all characters in the domain to one")
  else none

/-! ### Bytes -/

def byteTable {α : Type} (entry : UInt8 → α) : Array α := (allBytes.map entry).toArray

/-- What becomes of each byte: another byte, or nothing. -/
def translation (flags : Flags) (first second : List UInt8) : UInt8 → Option UInt8 :=
  let all := if flags.has 'c' then complementOf first else first
  let source := if flags.has 't' && !flags.has 'd' then all.take second.length else all
  if flags.has 'd' then fun byte => if source.contains byte then none else some byte
  else
    let last := second.getLast?
    let target := second ++ List.replicate (source.length - second.length) (last.getD 0)
    let pairs := (source.zip target).reverse
    fun byte => if second.isEmpty then some byte else some ((pairs.lookup byte).getD byte)

/-- Passes on one byte: the last byte that was put out, and the bytes so far. -/
def translateByte (table : Array (Option UInt8)) (squeezed : Array Bool)
    (state : Option UInt8 × ByteArray) (byte : UInt8) : Option UInt8 × ByteArray :=
  match table.getD byte.toNat none with
  | none => state
  | some new =>
    if squeezed.getD new.toNat false && state.1 = some new then state
    else (some new, state.2.push new)

def trFlags : FlagSet where
  plain := ['d', 's', 'c', 't']
  long := [("delete", 'd'), ("squeeze-repeats", 's'), ("complement", 'c'), ("truncate-set1", 't')]
  strict := true

def squeezeSet (flags : Flags) (first second : List UInt8) : List UInt8 :=
  if !flags.has 's' then []
  else if second.isEmpty then (if flags.has 'c' then complementOf first else first)
  else second

def tr : Tool := withFlags { trFlags with plain := 'C' :: trFlags.plain } 1 fun call flags => do
  let flags := if flags.has 'C' then flags.addFlag 'c' "" else flags
  let needed := if flags.has 'd' == flags.has 's' then 2 else 1
  match flags.operands with
  | [] => misuse call 1 "missing operand"
  | [only] =>
    if needed = 2 then do
      report call ("missing operand after " ++ quoted only)
      Program.complain (if flags.has 'd'
        then "Two strings must be given when both deleting and squeezing repeats."
        else "Two strings must be given when translating.")
      Program.complain ("Try '" ++ call.name ++ " --help' for more information.")
      return 1
    else withSets call flags only none
  | [first, second] =>
    if flags.has 'd' && !flags.has 's' then do
      report call ("extra operand " ++ quoted second)
      Program.complain "Only one string may be given when deleting without squeezing repeats."
      Program.complain ("Try '" ++ call.name ++ " --help' for more information.")
      return 1
    else withSets call flags first (some second)
  | _ :: _ :: extra :: _ => misuse call 1 ("extra operand " ++ quoted extra)
where
  withSets (call : Call) (flags : Flags) (first : String) (second : Option String) :
      Program UInt8 := do
    match readSet first, second.mapM readSet with
    | .error problem, _ | _, .error problem => fail call 1 problem
    | .ok firstItems, .ok secondItems =>
      let firstSet := bytesOfSet 0 firstItems
      let fault := if flags.has 'd' then none
        else secondItems.bind (translationFault? (flags.has 'c') (flags.has 't') firstItems)
      if firstItems.any SetItem.isFilling then
        fail call 1 "the [c*] repeat construct may not appear in string1"
      else match fault with
        | some problem => fail call 1 problem
        | none => run call flags firstSet ((secondItems.map (bytesOfSet firstSet.length)).getD [])
  run (call : Call) (flags : Flags) (first second : List UInt8) : Program UInt8 := do
    let table := byteTable (translation flags first second)
    let repeated := squeezeSet flags first second
    let squeezed := byteTable repeated.contains
    let filter : Filter (Option UInt8) := { step := fun last chunk =>
      let after := chunk.foldl (translateByte table squeezed) (last, ByteArray.empty)
      (after.1, after.2) }
    match (← filter.overInput none).2 with
    | none => return 0
    | some cause => fail call 1 ("read error: " ++ cause.text)

end PipeShell.Machine.Tool
