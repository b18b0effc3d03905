import PipeShell.Machine.Tool.Translation

/-!
Regular expressions over bytes, in the basic and in the extended notation. A match is the leftmost
one and the longest of those; groups remember what they matched.
-/
namespace PipeShell.Machine.Tool

inductive Pattern where
  | nothing
  | oneOf (accepts : UInt8 → Bool)
  | lineStart
  | lineEnd
  | wordEdge (starts : Bool) (ends : Bool)
  | sequence (first second : Pattern)
  | choice (first second : Pattern)
  | repetition (pattern : Pattern) (least : Nat) (most : Option Nat)
  | group (number : Nat) (pattern : Pattern)
  /-- What a group matched, once more. -/
  | again (number : Nat)

namespace Pattern

structure Place where
  offset : Nat
  groups : List (Nat × Nat × Nat) := []

def isWordByte (byte : UInt8) : Bool := Bytes.isAlnum byte || byte = 95

def wordSides (text : Array UInt8) (place : Nat) : Bool × Bool :=
  ((if place = 0 then false else (text[place - 1]?).any isWordByte), (text[place]?).any isWordByte)

def repeated (step : Place → List Place) (least : Nat) (most : Option Nat) :
    Nat → Place → List Place
  | 0, place => if least = 0 then [place] else []
  | fuel + 1, place =>
    let further := if most = some 0 then []
      else ((step place).filter fun next => next.offset ≠ place.offset || least > 0).flatMap
        (repeated step (least - 1) (most.map (· - 1)) fuel)
    if least = 0 then further ++ [place] else further

def ends (text : Array UInt8) : Pattern → Place → List Place
  | nothing, place => [place]
  | oneOf accepts, place =>
    if (text[place.offset]?).any accepts then [{ place with offset := place.offset + 1 }] else []
  | lineStart, place => if place.offset = 0 then [place] else []
  | lineEnd, place => if place.offset = text.size then [place] else []
  | wordEdge starts ends, place =>
    let sides := wordSides text place.offset
    if (starts && !sides.1 && sides.2) || (ends && sides.1 && !sides.2) then [place] else []
  | sequence first second, place => (ends text first place).flatMap (ends text second)
  | choice first second, place => ends text first place ++ ends text second place
  | repetition pattern least most, place =>
    repeated (ends text pattern) least most (text.size + least + 1) place
  | group number pattern, place =>
    (ends text pattern place).map fun next =>
      { next with groups := (number, place.offset, next.offset) :: next.groups }
  | again number, place =>
    match place.groups.lookup number with
    | none => []
    | some (first, last) =>
      let wanted := text.extract first last
      if text.extract place.offset (place.offset + wanted.size) = wanted then
        [{ place with offset := place.offset + wanted.size }]
      else []

def matchAt (pattern : Pattern) (text : Array UInt8) (start : Nat) : Option Place :=
  (pattern.ends text ⟨start, []⟩).foldl (fun best place =>
    match best with
    | none => some place
    | some found => if found.offset < place.offset then some place else best) none

def findFrom (pattern : Pattern) (text : Array UInt8) : Nat → Nat → Option (Nat × Place)
  | 0, _ => none
  | fuel + 1, start =>
    if start > text.size then none
    else match pattern.matchAt text start with
      | some place => some (start, place)
      | none => findFrom pattern text fuel (start + 1)

def find? (pattern : Pattern) (text : Array UInt8) (start : Nat) : Option (Nat × Place) :=
  pattern.findFrom text (text.size + 1 - start) start

/-! ### Notation -/

def literal (byte : UInt8) : Pattern := oneOf (· == byte)

structure Style where
  extended : Bool
  foldCase : Bool

def Style.literal (style : Style) (byte : UInt8) : Pattern :=
  if style.foldCase then
    let lower := Bytes.toLower byte
    oneOf fun other => Bytes.toLower other == lower
  else Pattern.literal byte

def Style.members (style : Style) (negated : Bool) (members : List UInt8) : Pattern :=
  let members := if style.foldCase then members.map Bytes.toLower else members
  oneOf fun byte =>
    (members.contains (if style.foldCase then Bytes.toLower byte else byte)) != negated

/-- The members of a bracket expression after its first place, and what follows it. -/
def bracketItems : Nat → List UInt8 → List SetItem → Option (List UInt8 × List UInt8)
  | 0, _, _ => none
  | _ + 1, [], _ => none
  | _ + 1, 93 :: rest, items =>
    (withRanges items.reverse).toOption.map fun items => (items.flatMap (SetItem.members 0), rest)
  | fuel + 1, 91 :: 58 :: rest, items =>
    let name := rest.takeWhile (· ≠ 58)
    match rest.drop name.length, byteClass? (Bytes.toText (Bytes.ofList name)) with
    | 58 :: 93 :: after, some members => bracketItems fuel after (.named "" members :: items)
    | _, _ => bracketItems fuel (58 :: rest) (.byte 91 true :: items)
  | fuel + 1, byte :: rest, items => bracketItems fuel rest (.byte byte true :: items)

def bracket (style : Style) (bytes : List UInt8) : Option (Pattern × List UInt8) :=
  let negated := bytes.head? = some 94
  let bytes := if negated then bytes.drop 1 else bytes
  let found := match bytes with
    | 93 :: rest => bracketItems bytes.length rest [.byte 93 false]
    | _ => bracketItems (bytes.length + 1) bytes []
  found.map fun result => (style.members negated result.1, result.2)

def bounds? (bytes : List UInt8) : Option ((Nat × Option Nat) × List UInt8) :=
  let first := bytes.takeWhile Bytes.isDigit
  let number (digits : List UInt8) : Nat :=
    digits.foldl (fun (n : Nat) b => n * 10 + (b.toNat - 48)) 0
  let close (rest : List UInt8) : Option (List UInt8) := match rest with
    | 125 :: after => some after
    | 92 :: 125 :: after => some after
    | _ => none
  match bytes.drop first.length with
  | 44 :: rest =>
    let last := rest.takeWhile Bytes.isDigit
    (close (rest.drop last.length)).map fun after =>
      ((number first, if last.isEmpty then none else some (number last)), after)
  | rest => (close rest).map fun after => ((number first, some (number first)), after)

inductive Sign where
  | opening
  | closing
  | bar
  | star
  | plus
  | optional
  | brace
  | caret
  | dollar
  | dot
  | bracketOpening
  | escape (byte : UInt8)
  | plain (byte : UInt8)
  deriving DecidableEq

/-- The sign of a byte that an escape turns into an operator, or of one that it makes plain. -/
def signOf (marked : Bool) (byte : UInt8) : Sign :=
  if marked then
    match byte with
    | 40 => .opening
    | 41 => .closing
    | 124 => .bar
    | 43 => .plus
    | 63 => .optional
    | 123 => .brace
    | _ => .plain byte
  else .plain byte

def nextSign (extended : Bool) : List UInt8 → Option (Sign × List UInt8)
  | [] => none
  | 92 :: byte :: rest =>
    match signOf (!extended) byte with
    | .plain byte => some (.escape byte, rest)
    | sign => some (sign, rest)
  | 42 :: rest => some (.star, rest)
  | 94 :: rest => some (.caret, rest)
  | 36 :: rest => some (.dollar, rest)
  | 46 :: rest => some (.dot, rest)
  | 91 :: rest => some (.bracketOpening, rest)
  | byte :: rest => some (signOf extended byte, rest)

structure Parsed where
  pattern : Pattern
  groups : Nat
  rest : List UInt8

def escapeMeaning (style : Style) (byte : UInt8) : Pattern :=
  if 49 ≤ byte && byte ≤ 57 then again (byte.toNat - 48)
  else match byte with
    | 119 => oneOf isWordByte
    | 87 => oneOf fun b => !isWordByte b
    | 115 => oneOf Bytes.isSpace
    | 83 => oneOf fun b => !Bytes.isSpace b
    | 98 => wordEdge true true
    | 60 => wordEdge true false
    | 62 => wordEdge false true
    | 110 => Pattern.literal 10
    | 116 => Pattern.literal 9
    | _ => style.literal byte

def endsPart (extended : Bool) (rest : List UInt8) : Bool :=
  match nextSign extended rest with
  | none | some (.closing, _) | some (.bar, _) => true
  | _ => extended

def repetitions (extended : Bool) : Nat → Pattern → List UInt8 → Option (Pattern × List UInt8)
  | 0, pattern, rest => some (pattern, rest)
  | fuel + 1, pattern, rest =>
    match nextSign extended rest with
    | some (.star, after) => repetitions extended fuel (repetition pattern 0 none) after
    | some (.plus, after) => repetitions extended fuel (repetition pattern 1 none) after
    | some (.optional, after) => repetitions extended fuel (repetition pattern 0 (some 1)) after
    | some (.brace, after) =>
      match bounds? after with
      | some (bounds, after) =>
        repetitions extended fuel (repetition pattern bounds.1 bounds.2) after
      | none => none
    | _ => some (pattern, rest)

mutual

def readChoices (style : Style) : Nat → Nat → List UInt8 → Option Parsed
  | 0, _, _ => none
  | fuel + 1, groups, bytes =>
    match readSequence style fuel true groups bytes with
    | none => none
    | some first =>
      match nextSign style.extended first.rest with
      | some (.bar, rest) =>
        match readChoices style fuel first.groups rest with
        | none => none
        | some second => some { second with pattern := choice first.pattern second.pattern }
      | _ => some first

def readSequence (style : Style) : Nat → Bool → Nat → List UInt8 → Option Parsed
  | 0, _, _, _ => none
  | fuel + 1, isFirst, groups, bytes =>
    let continueWith (pattern : Pattern) (groups : Nat) (rest : List UInt8) : Option Parsed :=
      match repetitions style.extended rest.length pattern rest with
      | none => none
      | some (piece, rest) =>
        match readSequence style fuel false groups rest with
        | none => none
        | some others => some { others with pattern := sequence piece others.pattern }
    match nextSign style.extended bytes with
    | none | some (.closing, _) | some (.bar, _) => some ⟨nothing, groups, bytes⟩
    | some (.caret, rest) =>
      if isFirst || style.extended then
        match readSequence style fuel true groups rest with
        | none => none
        | some others => some { others with pattern := sequence lineStart others.pattern }
      else continueWith (Pattern.literal 94) groups rest
    | some (.dollar, rest) =>
      if endsPart style.extended rest then continueWith lineEnd groups rest
      else continueWith (Pattern.literal 36) groups rest
    | some (.opening, rest) =>
      match readChoices style fuel (groups + 1) rest with
      | none => none
      | some inner =>
        match nextSign style.extended inner.rest with
        | some (.closing, rest) => continueWith (group (groups + 1) inner.pattern) inner.groups rest
        | _ => none
    | some (.bracketOpening, rest) =>
      match bracket style rest with
      | none => none
      | some (pattern, rest) => continueWith pattern groups rest
    | some (.dot, rest) => continueWith (oneOf fun _ => true) groups rest
    | some (.star, rest) => continueWith (Pattern.literal 42) groups rest
    | some (.plus, rest) => continueWith (Pattern.literal 43) groups rest
    | some (.optional, rest) => continueWith (Pattern.literal 63) groups rest
    | some (.brace, rest) => continueWith (Pattern.literal 123) groups rest
    | some (.escape byte, rest) => continueWith (escapeMeaning style byte) groups rest
    | some (.plain byte, rest) => continueWith (style.literal byte) groups rest

end

def ofBytes? (style : Style) (bytes : List UInt8) : Option Pattern :=
  match readChoices style (2 * bytes.length + 2) 0 bytes with
  | some ⟨pattern, _, []⟩ => some pattern
  | _ => none

end Pattern

end PipeShell.Machine.Tool
