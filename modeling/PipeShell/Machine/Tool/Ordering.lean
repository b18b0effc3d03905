import PipeShell.Machine.Tool.Amount
import PipeShell.Machine.Tool.Input

/-!
Tools that compare lines: `sort` and `uniq`. Lines are ordered byte by byte, or by keys in them, and
then byte by byte.
-/
namespace PipeShell.Machine.Tool

structure KeyStyle where
  numeric : Bool := false
  reverse : Bool := false
  foldCase : Bool := false
  /-- Whether blanks in front of a key do not count, at its beginning and at its end. -/
  skipGaps : Bool := false
  skipEndGaps : Bool := false
  /-- Whether only blanks, letters and digits count, or only bytes that can be shown. -/
  dictionary : Bool := false
  shownOnly : Bool := false
  deriving DecidableEq, Repr

namespace KeyStyle

def ofLetters (letters : List Char) : KeyStyle where
  numeric := letters.any "ngh".toList.contains
  reverse := letters.contains 'r'
  foldCase := letters.contains 'f'
  skipGaps := letters.contains 'b'
  skipEndGaps := letters.contains 'b'
  dictionary := letters.contains 'd'
  shownOnly := letters.contains 'i'

/-- The number at the beginning of a text: its digits, and how many of them are decimals. -/
def numberOf (bytes : List UInt8) : Int × Nat :=
  let text := bytes.dropWhile Bytes.isGap
  let negative := text.head? = some 45
  let unsigned := if negative then text.drop 1 else text
  let whole := unsigned.takeWhile Bytes.isDigit
  let decimals := match unsigned.drop whole.length with
    | 46 :: rest => rest.takeWhile Bytes.isDigit
    | _ => []
  let value := (whole ++ decimals).foldl (fun (n : Nat) byte => n * 10 + (byte.toNat - 48)) 0
  (if negative then -(value : Int) else value, decimals.length)

def compareNumbers (a b : List UInt8) : Ordering :=
  let x := numberOf a
  let y := numberOf b
  Ord.compare (x.1 * (Nat.pow 10 y.2 : Nat)) (y.1 * (Nat.pow 10 x.2 : Nat))

def counted (style : KeyStyle) (bytes : List UInt8) : List UInt8 :=
  let kept := bytes.filter fun byte =>
    (!style.dictionary || Bytes.isAlnum byte || Bytes.isGap byte) &&
      (!style.shownOnly || Bytes.isPrintable byte)
  if style.foldCase then kept.map Bytes.toUpper else kept

def compare (style : KeyStyle) (a b : ByteArray) : Ordering :=
  let plain :=
    if style.numeric then compareNumbers (Bytes.toList a) (Bytes.toList b)
    else if style.dictionary || style.shownOnly || style.foldCase then
      Bytes.order (Bytes.ofList (style.counted (Bytes.toList a)))
        (Bytes.ofList (style.counted (Bytes.toList b)))
    else Bytes.order a b
  if style.reverse then plain.swap else plain

end KeyStyle

/-! ### Keys -/

/-- A key: from a byte of one field to a byte of another, or to the end of the line. Fields and
bytes are given by how many come before; an end after no bytes means the whole field. -/
structure Key where
  first : Nat × Nat := (0, 0)
  last : Option (Nat × Nat) := none
  style : KeyStyle
  deriving DecidableEq, Repr

def skipField (separator : Option UInt8) (bytes : List UInt8) : List UInt8 :=
  match separator with
  | some byte => bytes.dropWhile (· ≠ byte)
  | none => (bytes.dropWhile Bytes.isGap).dropWhile fun byte => !Bytes.isGap byte

def skipFields (separator : Option UInt8) : Nat → List UInt8 → List UInt8
  | 0, bytes => bytes
  | fields + 1, bytes =>
    let rest := skipField separator bytes
    skipFields separator fields (if separator.isSome then rest.drop 1 else rest)

def Key.behind (key : Key) (separator : Option UInt8) (bytes : List UInt8) : List UInt8 :=
  match key.last with
  | none => []
  | some (fields, 0) => skipField separator (skipFields separator fields bytes)
  | some (fields, count) =>
    let field := skipFields separator fields bytes
    (if key.style.skipEndGaps then field.dropWhile Bytes.isGap else field).drop count

def Key.part (key : Key) (separator : Option UInt8) (line : ByteArray) : ByteArray :=
  let bytes := Bytes.toList line
  let field := skipFields separator key.first.1 bytes
  let start := (if key.style.skipGaps then field.dropWhile Bytes.isGap else field).drop key.first.2
  let behind := key.behind separator bytes
  line.extract (bytes.length - start.length) (bytes.length - behind.length)

def readCount (place : String) (text : List Char) : Except String (Nat × List Char) :=
  let digits := text.takeWhile Char.isDigit
  match Bytes.natOf? (String.ofList digits) with
  | some n => .ok (n, text.drop digits.length)
  | none => .error ("invalid number " ++ place ++ ": invalid count at start of " ++
      quoted (String.ofList text))

def styleLetters : List Char := "bdfghiMnRrV".toList

/-- Reads one end of a key: a field, perhaps a byte of it, and letters. -/
def readEnd (wrong : String → String) (place : String) (usual least : Nat) (text : List Char) :
    Except String ((Nat × Nat × List Char) × List Char) := do
  let (field, rest) ← readCount place text
  if field = 0 then throw (wrong "field number is zero")
  let (offset, rest) ← match rest with
    | '.' :: more => readCount "after '.'" more
    | _ => pure (usual, rest)
  if offset < least then throw (wrong "character offset is zero")
  let letters := rest.takeWhile styleLetters.contains
  return ((field - 1, offset - least, letters), rest.drop letters.length)

/-- Reads a key such as `2,3nr`. Without letters of its own it is compared like whole lines. -/
def Key.read (whole : KeyStyle) (text : String) : Except String Key := do
  let wrong (problem : String) : String :=
    problem ++ ": invalid field specification " ++ quoted text
  let ((field, offset, letters), rest) ← readEnd wrong "at field start" 1 1 text.toList
  let (last, lastLetters, rest) ← match rest with
    | ',' :: more => do
      let ((field, count, letters), rest) ← readEnd wrong "after ','" 0 0 more
      pure (some (field, count), letters, rest)
    | _ => pure (none, [], rest)
  if !rest.isEmpty then throw (wrong "stray character in field spec")
  let style := if (letters ++ lastLetters).isEmpty then whole
    else { KeyStyle.ofLetters (letters ++ lastLetters) with
      skipGaps := letters.contains 'b', skipEndGaps := lastLetters.contains 'b' }
  return ⟨(field, offset), last, style⟩

structure SortStyle where
  whole : KeyStyle
  keys : List Key
  separator : Option UInt8
  unique : Bool
  stable : Bool

namespace SortStyle

def compareKeys (style : SortStyle) (a b : ByteArray) : Ordering :=
  if style.keys.isEmpty then
    if style.whole.skipGaps then
      let line : Key := { style := style.whole }
      style.whole.compare (line.part none a) (line.part none b)
    else style.whole.compare a b
  else style.keys.foldl (fun found key =>
    match found with
    | .eq => key.style.compare (key.part style.separator a) (key.part style.separator b)
    | other => other) .eq

def compare (style : SortStyle) (a b : ByteArray) : Ordering :=
  match style.compareKeys a b with
  | .eq =>
    if style.unique || style.stable then .eq
    else if style.whole.reverse then (Bytes.order a b).swap
    else Bytes.order a b
  | other => other

def dropRepeated (style : SortStyle) : List ByteArray → List ByteArray
  | [] => []
  | [line] => [line]
  | first :: second :: rest =>
    let others := dropRepeated style (second :: rest)
    if style.compareKeys first second = .eq then
      match others with
      | _ :: after => first :: after
      | [] => [first]
    else first :: others

def allows (style : SortStyle) (a b : ByteArray) : Bool := style.compare a b != .gt

/-- The lines of several files in order; of files that are in order already, if these are merged. -/
def apply (style : SortStyle) (merged : Bool) (files : List (List ByteArray)) : List ByteArray :=
  let sorted := if merged then files.foldl (fun soFar lines => soFar.merge lines style.allows) []
    else files.flatten.mergeSort style.allows
  if style.unique then style.dropRepeated sorted else sorted

end SortStyle

def sortErrors : InputErrors where
  opening name cause := "cannot read: " ++ asName name ++ ": " ++ cause.text
  reading name cause := "read failed: " ++ asName name ++ ": " ++ cause.text
  code := 2

def sortFlags : FlagSet where
  plain := "rnufbscdighmCMRVz".toList
  valued := "ktoST".toList
  long := [("reverse", 'r'), ("numeric-sort", 'n'), ("unique", 'u'), ("ignore-case", 'f'),
    ("key", 'k'), ("field-separator", 't'), ("stable", 's'), ("output", 'o'), ("check", 'c'),
    ("dictionary-order", 'd'), ("ignore-leading-blanks", 'b'), ("ignore-nonprinting", 'i'),
    ("general-numeric-sort", 'g'), ("merge", 'm')]

def separatorOf (flags : Flags) : Except String (Option UInt8) :=
  match flags.value? 't' with
  | none => .ok none
  | some "" => .error "empty tab"
  | some "\\0" => .ok (some 0)
  | some text =>
    match Bytes.toList text.toUTF8 with
    | [byte] => .ok (some byte)
    | _ => .error ("multi-character tab " ++ quoted text)

def SortStyle.ofFlags (flags : Flags) : Except String SortStyle := do
  let whole := KeyStyle.ofLetters (flags.given.map Prod.fst)
  return { whole := whole
           keys := ← (flags.values 'k').mapM (Key.read whole)
           separator := ← separatorOf flags
           unique := flags.has 'u'
           stable := flags.has 's' }

def checkOrder (call : Call) (style : SortStyle) (quiet : Bool) (name : String)
    (lines : List ByteArray) : Program UInt8 := do
  let isWrong (a b : ByteArray) : Bool := match style.compare a b with
    | .lt => false
    | .eq => style.unique
    | .gt => true
  match (lines.zip (lines.drop 1)).zipIdx.find? fun pair => isWrong pair.1.1 pair.1.2 with
  | none => return 0
  | some ((_, second), place) => do
    if !quiet then
      report call (asName name ++ ":" ++ toString (place + 2) ++ ": disorder: " ++
        Bytes.toText second)
    return 1

def sortLines (call : Call) (flags : Flags) (style : SortStyle) : Program UInt8 := do
  let read ← readOperands call sortErrors (orInput flags.operands)
  if read.2 ≠ 0 then return read.2
  let files := read.1.map Bytes.bareLines
  if flags.has 'c' || flags.has 'C' then
    checkOrder call style (flags.has 'C') (flags.operands.headD "-") files.flatten
  else
    let out := Bytes.concat ((style.apply (flags.has 'm') files).map (·.push Bytes.newline))
    match flags.value? 'o' with
    | none => do
      Program.emit .out out
      return 0
    | some name =>
      match ← Program.change (FileTree.writeFile call.directory name (.bytes out)) with
      | .ok () => return 0
      | .error cause => fail call 2 ("open failed: " ++ asName name ++ ": " ++ cause.text)

def sort : Tool := withFlags sortFlags 2 fun call flags =>
  match SortStyle.ofFlags flags with
  | .error problem => fail call 2 problem
  | .ok style =>
    match (if flags.has 'c' || flags.has 'C' then flags.operands.drop 1 else []) with
    | extra :: _ =>
      fail call 2 ("extra operand " ++ quoted extra ++ " not allowed with " ++
        (if flags.has 'C' then "-C" else "-c"))
    | [] => sortLines call flags style

/-! ### Repeated lines -/

structure RepeatStyle where
  count : Bool
  repeatedOnly : Bool
  singleOnly : Bool
  /-- Whether all lines of a group are shown, and then only groups of several lines. -/
  allRepeated : Bool
  foldCase : Bool
  /-- How many fields and then how many bytes of a line do not count. -/
  skippedFields : Nat
  skippedBytes : Nat
  /-- How many bytes count after those, if not all. -/
  width : Option Nat

/-- What a group of equal lines puts out; its first line and the others, the last of them in
front. -/
def RepeatStyle.group (style : RepeatStyle) (line : ByteArray) (others : List ByteArray) :
    ByteArray :=
  let count := others.length + 1
  let isRepeated := decide (count > 1)
  if ((style.repeatedOnly || style.allRepeated) && !isRepeated) ||
      (style.singleOnly && isRepeated) then
    ByteArray.empty
  else if style.allRepeated then
    Bytes.concat ((line :: others.reverse).map fun line => line.push Bytes.newline)
  else
    let front := if style.count then Bytes.padLeft 7 (toString count) ++ " " else ""
    front.toUTF8 ++ line.push Bytes.newline

/-- The bytes without a number of fields at their front, each with the blanks before it. -/
def withoutFields : Nat → List UInt8 → List UInt8
  | 0, bytes => bytes
  | fields + 1, bytes =>
    withoutFields fields ((bytes.dropWhile Bytes.isGap).dropWhile fun byte => !Bytes.isGap byte)

def RepeatStyle.key (style : RepeatStyle) (line : ByteArray) : List UInt8 :=
  let rest := (withoutFields style.skippedFields (Bytes.toList line)).drop style.skippedBytes
  let part := match style.width with
    | none => rest
    | some width => rest.take width
  if style.foldCase then part.map Bytes.toLower else part

def RepeatStyle.same (style : RepeatStyle) (a b : ByteArray) : Bool :=
  if style.foldCase || style.skippedFields ≠ 0 || style.skippedBytes ≠ 0 || style.width.isSome then
    style.key a = style.key b
  else Bytes.order a b = .eq

/-- Takes the next line: the group so far goes on or ends. -/
def RepeatStyle.line (style : RepeatStyle) (state : Option (ByteArray × List ByteArray))
    (line : ByteArray) : Option (ByteArray × List ByteArray) × ByteArray :=
  let text := Bytes.chomp line
  match state with
  | none => (some (text, []), ByteArray.empty)
  | some (first, others) =>
    if style.same first text then (some (first, text :: others), ByteArray.empty)
    else (some (text, []), style.group first others)

def uniqFlags : FlagSet where
  plain := ['c', 'd', 'u', 'i', 'D']
  valued := ['f', 's', 'w']
  long := [("count", 'c'), ("repeated", 'd'), ("unique", 'u'), ("ignore-case", 'i'),
    ("skip-fields", 'f'), ("skip-chars", 's'), ("check-chars", 'w'), ("all-repeated", 'D')]

/-- How the flags say that lines are grouped; the text is a number that is none. -/
def RepeatStyle.ofFlags (flags : Flags) : Except String RepeatStyle := do
  let number (flag : Char) (use : String) : Except String Nat :=
    (flags.number flag 0).mapError fun text => text ++ ": invalid number of " ++ use
  let fields ← number 'f' "fields to skip"
  let bytes ← number 's' "bytes to skip"
  let width ← number 'w' "bytes to compare"
  return { count := flags.has 'c', repeatedOnly := flags.has 'd', singleOnly := flags.has 'u'
           allRepeated := flags.has 'D', foldCase := flags.has 'i', skippedFields := fields
           skippedBytes := bytes, width := if flags.has 'w' then some width else none }

def uniqErrors : InputErrors where
  reading name cause :=
    "error reading " ++ asWord (if name = "-" then "standard input" else name) ++ ": " ++ cause.text

def groupLines (call : Call) (style : RepeatStyle) (operands : List String) : Program UInt8 := do
  let filter : LineFilter (Option (ByteArray × List ByteArray)) := { line := style.line }
  let after ← filter.run call uniqErrors none operands
  match after.1 with
  | some (first, others) => Program.emit .out (style.group first others)
  | none => pure ()
  return after.2

def uniq : Tool := withFlags uniqFlags 1 fun call flags => do
  match RepeatStyle.ofFlags flags, flags.operands with
  | .error problem, _ => fail call 1 problem
  | .ok _, _ :: _ :: extra :: _ => misuse call 1 ("extra operand " ++ quoted extra)
  | .ok style, [source, target] => do
    if let .error cause := (← Program.tree).resolve call.directory source then
      if source ≠ "-" then return ← fail call 1 (asName source ++ ": " ++ cause.text)
    match ← Program.change (FileTree.writeFile call.directory target (.bytes ByteArray.empty)) with
    | .error cause => fail call 1 (asName target ++ ": " ++ cause.text)
    | .ok () =>
      let route : Program.Route := match (← Program.tree).resolve call.directory target with
        | .ok id => .file id
        | .error _ => .nowhere
      (groupLines call style [source]).reroute fun channel => match channel with
        | .out => route
        | .err => .channel .err
  | .ok style, operands => groupLines call style operands

end PipeShell.Machine.Tool
