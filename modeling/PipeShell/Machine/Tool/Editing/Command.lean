import PipeShell.Machine.Tool.Pattern

/-!
The scripts of `sed` and how they are read: commands with the lines that they are meant for. Blocks
are kept as jumps: a block whose address does not fit skips as many commands as it holds.
-/
namespace PipeShell.Machine.Tool.Edit

abbrev Sought := Option Pattern

inductive Address where
  | line (number : Nat)
  /-- Every so many lines from a first one on. -/
  | stepped (first step : Nat)
  | final
  | found (sought : Sought)

inductive Span where
  | always
  | one (address : Address)
  | range (first last : Address)
  /-- A line and some lines after it. -/
  | count (first : Address) (more : Nat)

/-- A part of a replacement: bytes, or what a group matched. -/
inductive Part where
  | bytes (data : List UInt8)
  | group (number : Nat)

/-- What is replaced by what: the number of the first match that counts, and whether those after it
count too. -/
structure Substitution where
  sought : Sought
  parts : List Part
  which : Nat
  all : Bool
  shows : Bool

inductive Action where
  | substitute (substitution : Substitution)
  | print
  /-- Prints the first of the lines that are held together. -/
  | printFirst
  | delete
  /-- Deletes the first of the lines that are held together. -/
  | deleteFirst
  | quit (shows : Bool) (code : Nat)
  | number
  | translate (pairs : List (UInt8 × UInt8))
  | append (text : List UInt8)
  | insert (text : List UInt8)
  | change (text : List UInt8)
  | appendFile (name : String)
  /-- Goes on with the next line in place of this one. -/
  | next
  /-- Adds the next line to this one. -/
  | join
  /-- Lays the text aside, behind what is there already or in its place. -/
  | layAside (behind : Bool)
  /-- Takes what was laid aside, behind the text or in its place. -/
  | takeBack (behind : Bool)
  | exchange
  | clear
  | label (name : List UInt8)
  /-- Goes on behind a label or at the end: always, or by whether something was replaced. -/
  | jump (condition : Option Bool) (name : List UInt8)
  | block (size : Nat)

structure Command where
  span : Span
  negated : Bool
  action : Action

/-! ### Reading a script -/

def number (bytes : List UInt8) : Nat := bytes.foldl (fun (n : Nat) b => n * 10 + (b.toNat - 48)) 0

def delimited (delimiter : UInt8) : List UInt8 → List UInt8 → Option (List UInt8 × List UInt8)
  | [], _ => none
  | 92 :: byte :: rest, soFar =>
    if byte = delimiter then delimited delimiter rest (byte :: soFar)
    else delimited delimiter rest (byte :: 92 :: soFar)
  | byte :: rest, soFar =>
    if byte = delimiter then some (soFar.reverse, rest)
    else delimited delimiter rest (byte :: soFar)

/-- How many of these bytes belong to a bracket expression that was opened before them. -/
def bracketSize (bytes : List UInt8) : Nat :=
  let negated := if bytes.head? = some 94 then 1 else 0
  let start := negated + if (bytes.drop negated).head? = some 93 then 1 else 0
  start + ((bytes.drop start).takeWhile (· ≠ 93)).length + 1

/-- The bytes of a pattern up to a delimiter, which is plain in brackets as well; `skip` bytes are
within brackets. -/
def delimitedPattern (delimiter : UInt8) :
    Nat → List UInt8 → List UInt8 → Option (List UInt8 × List UInt8)
  | _, [], _ => none
  | skip + 1, byte :: rest, soFar => delimitedPattern delimiter skip rest (byte :: soFar)
  | 0, 92 :: byte :: rest, soFar =>
    if byte = delimiter then delimitedPattern delimiter 0 rest (byte :: soFar)
    else delimitedPattern delimiter 0 rest (byte :: 92 :: soFar)
  | 0, byte :: rest, soFar =>
    if byte = delimiter then some (soFar.reverse, rest)
    else delimitedPattern delimiter
      (if byte = 91 && rest.contains 93 then bracketSize rest else 0) rest (byte :: soFar)

/-- Reads a pattern; an empty one stands for the last one used. -/
def sought? (extended foldCase : Bool) (written : List UInt8) : Option Sought :=
  if written.isEmpty then some none
  else (Pattern.ofBytes? ⟨extended, foldCase⟩ written).map some

def foundAddress (extended : Bool) (delimiter : UInt8) (bytes : List UInt8) :
    Option (Address × List UInt8) := do
  let (written, after) ← delimitedPattern delimiter 0 bytes []
  let sought ← sought? extended (after.head? = some 73) written
  return (.found sought, if after.head? = some 73 then after.drop 1 else after)

def address (extended : Bool) (bytes : List UInt8) : Option (Address × List UInt8) :=
  match bytes with
  | 36 :: rest => some (.final, rest)
  | 47 :: rest => foundAddress extended 47 rest
  | 92 :: delimiter :: rest => foundAddress extended delimiter rest
  | _ =>
    let digits := bytes.takeWhile Bytes.isDigit
    if digits.isEmpty then none
    else match bytes.drop digits.length with
      | 126 :: rest =>
        let step := rest.takeWhile Bytes.isDigit
        some (.stepped (number digits) (number step), rest.drop step.length)
      | rest => some (.line (number digits), rest)

def span (extended : Bool) (bytes : List UInt8) : Option (Span × List UInt8) :=
  match address extended bytes with
  | none => some (.always, bytes)
  | some (first, 44 :: 43 :: rest) =>
    let digits := rest.takeWhile Bytes.isDigit
    some (.count first (number digits), rest.drop digits.length)
  | some (first, 44 :: rest) =>
    (address extended (rest.dropWhile Bytes.isGap)).map fun last => (.range first last.1, last.2)
  | some (first, rest) => some (.one first, rest)

def parts : List UInt8 → List Part
  | [] => []
  | 38 :: rest => .group 0 :: parts rest
  | 92 :: byte :: rest =>
    if Bytes.isDigit byte then .group (byte.toNat - 48) :: parts rest
    else if byte = 110 then .bytes [10] :: parts rest
    else if byte = 116 then .bytes [9] :: parts rest
    else .bytes [byte] :: parts rest
  | byte :: rest => .bytes [byte] :: parts rest

def substitution (extended : Bool) : List UInt8 → Option (Action × List UInt8)
  | [] => none
  | delimiter :: rest => do
    let (written, rest) ← delimitedPattern delimiter 0 rest []
    let (replacement, rest) ← delimited delimiter rest []
    let flags := rest.takeWhile fun b => Bytes.isAlnum b
    let sought ← sought? extended (flags.contains 73 || flags.contains 105) written
    let digits := flags.filter Bytes.isDigit
    return (.substitute
      { sought := sought
        parts := parts replacement
        which := if digits.isEmpty then 1 else number digits
        all := flags.contains 103
        shows := flags.contains 112 }, rest.drop flags.length)

def listed : List UInt8 → List UInt8
  | 92 :: 110 :: rest => 10 :: listed rest
  | 92 :: 116 :: rest => 9 :: listed rest
  | 92 :: 92 :: rest => 92 :: listed rest
  | byte :: rest => byte :: listed rest
  | [] => []

def translation : List UInt8 → Option (Action × List UInt8)
  | [] => none
  | delimiter :: rest => do
    let (first, rest) ← delimited delimiter rest []
    let (second, rest) ← delimited delimiter rest []
    if (listed first).length = (listed second).length then
      return (.translate ((listed first).zip (listed second)), rest)
    else none

/-- The text up to a newline without an escape; other escapes are dropped, or stand for a tab. -/
def textLines : List UInt8 → List UInt8 × List UInt8
  | [] => ([], [])
  | 92 :: byte :: rest =>
    let after := textLines rest
    ((if byte = 116 then 9 else byte) :: after.1, after.2)
  | byte :: rest =>
    if byte = Bytes.newline then ([], byte :: rest)
    else
      let after := textLines rest
      (byte :: after.1, after.2)

def addedText (bytes : List UInt8) : List UInt8 × List UInt8 :=
  let start := match bytes.dropWhile Bytes.isGap with
    | 92 :: 10 :: rest => rest
    | 92 :: rest => rest
    | rest => rest
  let read := textLines start
  (if start.isEmpty then [] else read.1 ++ [Bytes.newline], read.2)

def nameOf (bytes : List UInt8) : List UInt8 × List UInt8 :=
  let start := bytes.dropWhile Bytes.isGap
  let name := start.takeWhile fun b => !Bytes.isSpace b && b ≠ 59 && b ≠ 125
  (name, start.drop name.length)

def quitting (shows : Bool) (bytes : List UInt8) : Action × List UInt8 :=
  let start := bytes.dropWhile Bytes.isGap
  let digits := start.takeWhile Bytes.isDigit
  (.quit shows (number digits), start.drop digits.length)

def action (extended : Bool) : List UInt8 → Option (Action × List UInt8)
  | [] => none
  | byte :: rest =>
    match Char.ofNat byte.toNat with
    | 's' => substitution extended rest
    | 'y' => translation rest
    | 'p' => some (.print, rest)
    | 'P' => some (.printFirst, rest)
    | 'd' => some (.delete, rest)
    | 'D' => some (.deleteFirst, rest)
    | '=' => some (.number, rest)
    | 'q' => some (quitting true rest)
    | 'Q' => some (quitting false rest)
    | 'a' => some (.append (addedText rest).1, (addedText rest).2)
    | 'i' => some (.insert (addedText rest).1, (addedText rest).2)
    | 'c' => some (.change (addedText rest).1, (addedText rest).2)
    | 'n' => some (.next, rest)
    | 'N' => some (.join, rest)
    | 'h' => some (.layAside false, rest)
    | 'H' => some (.layAside true, rest)
    | 'g' => some (.takeBack false, rest)
    | 'G' => some (.takeBack true, rest)
    | 'x' => some (.exchange, rest)
    | 'z' => some (.clear, rest)
    | ':' => some (.label (nameOf rest).1, (nameOf rest).2)
    | 'b' => some (.jump none (nameOf rest).1, (nameOf rest).2)
    | 't' => some (.jump (some true) (nameOf rest).1, (nameOf rest).2)
    | 'T' => some (.jump (some false) (nameOf rest).1, (nameOf rest).2)
    | 'r' =>
      let name := (rest.dropWhile Bytes.isGap).takeWhile (· ≠ Bytes.newline)
      some (.appendFile (Bytes.toText (Bytes.ofList name)), rest.dropWhile (· ≠ Bytes.newline))
    | _ => none

def isBetween (byte : UInt8) : Bool := Bytes.isSpace byte || byte = 59

def commands (extended : Bool) : Nat → List UInt8 → Option (List Command × List UInt8)
  | 0, _ => none
  | fuel + 1, bytes =>
    match bytes.dropWhile isBetween with
    | [] => some ([], [])
    | 125 :: rest => some ([], 125 :: rest)
    | 35 :: rest => commands extended fuel (rest.dropWhile (· ≠ Bytes.newline))
    | bytes => do
      let (span, rest) ← span extended bytes
      let rest := rest.dropWhile Bytes.isGap
      let negated := rest.head? = some 33
      let rest := (if negated then rest.drop 1 else rest).dropWhile Bytes.isGap
      match rest with
      | 123 :: inner => do
        let (body, after) ← commands extended fuel inner
        match after with
        | 125 :: after => do
          let (others, rest) ← commands extended fuel after
          return (⟨span, negated, .block body.length⟩ :: body ++ others, rest)
        | _ => none
      | _ => do
        let (action, after) ← action extended rest
        match after.dropWhile Bytes.isGap with
        | [] | 59 :: _ | 10 :: _ | 125 :: _ => do
          let (others, rest) ← commands extended fuel after
          return (⟨span, negated, action⟩ :: others, rest)
        | _ => none

def script? (extended : Bool) (text : String) : Option (Array Command) :=
  let bytes := Bytes.toList text.toUTF8
  match commands extended (bytes.length + 1) bytes with
  | some (list, []) => some list.toArray
  | _ => none

end PipeShell.Machine.Tool.Edit
