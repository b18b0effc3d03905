import PipeShell.Machine.Tool.Amount
import PipeShell.Machine.Tool.Input

/-!
Tools for columns of text: `cut` takes them out of lines, and `paste` puts them side by side.
-/
namespace PipeShell.Machine.Tool

/-- A range of positions, counted from 1; without an end it goes on. -/
structure Positions where
  first : Nat
  last : Option Nat
  deriving DecidableEq, Repr

def Positions.contains (range : Positions) (position : Nat) : Bool :=
  range.first ≤ position && range.last.all (position ≤ ·)

inductive PositionKind where
  | bytes
  | fields
  deriving DecidableEq, Repr

def PositionKind.fromOne : PositionKind → String
  | .bytes => "byte/character positions are numbered from 1"
  | .fields => "fields are numbered from 1"

def PositionKind.badRange : PositionKind → String
  | .bytes => "invalid byte or character range"
  | .fields => "invalid field range"

def PositionKind.badText (kind : PositionKind) (text : List Char) : String :=
  let shown := quoted (String.ofList text)
  match kind with
  | .bytes => "invalid byte/character position " ++ shown
  | .fields => "invalid field value " ++ shown

/-- A range that was read in part: the digits before its dash and behind it, and whether it has
one. -/
structure OpenRange where
  first : List Char := []
  dashed : Bool := false
  last : List Char := []

def OpenRange.close (range : OpenRange) (kind : PositionKind) : Except String Positions :=
  let first := valueIn 10 range.first
  let last := valueIn 10 range.last
  if !range.dashed then
    if first = 0 then .error kind.fromOne else .ok ⟨first, some first⟩
  else if range.first.isEmpty && range.last.isEmpty then
    .error "invalid range with no endpoint: -"
  else
    let first := if range.first.isEmpty then 1 else first
    if range.last.isEmpty then .ok ⟨first, none⟩
    else if last < first then .error "invalid decreasing range"
    else .ok ⟨first, some last⟩

def readPositions (kind : PositionKind) (range : OpenRange) :
    List Char → Except String (List Positions)
  | [] => do return [← range.close kind]
  | c :: rest => do
    if c = '-' then
      if range.dashed then throw kind.badRange
      else if !range.first.isEmpty && valueIn 10 range.first = 0 then throw kind.fromOne
      else readPositions kind { range with dashed := true } rest
    else if c = ',' || c = ' ' || c = '\t' then
      let closed ← range.close kind
      return closed :: (← readPositions kind {} rest)
    else if c.isDigit then
      if range.dashed then readPositions kind { range with last := range.last ++ [c] } rest
      else readPositions kind { range with first := range.first ++ [c] } rest
    else throw (kind.badText (c :: rest))

def pick {α : Type} (chosen : Nat → Bool) (items : List α) : List α :=
  (items.zipIdx 1).filterMap fun item => if chosen item.2 then some item.1 else none

def splitBytes (separator : UInt8) (bytes : List UInt8) : List (List UInt8) :=
  bytes.foldr (fun byte parts =>
    if byte = separator then [] :: parts
    else match parts with
      | [] => [[byte]]
      | part :: others => (byte :: part) :: others) [[]]

def cutFields (separator : UInt8) (only : Bool) (between : ByteArray) (chosen : Nat → Bool)
    (line : ByteArray) : ByteArray :=
  let text := Bytes.chomp line
  let parts := splitBytes separator (Bytes.toList text)
  if parts.length ≤ 1 then (if only then ByteArray.empty else Bytes.terminated text)
  else (Bytes.joined between ((pick chosen parts).map Bytes.ofList)).push Bytes.newline

def cutFlags : FlagSet where
  plain := ['s', 'n', 'C']
  valued := "cbfdO".toList
  long := [("characters", 'c'), ("bytes", 'b'), ("fields", 'f'), ("delimiter", 'd'),
    ("only-delimited", 's'), ("complement", 'C'), ("output-delimiter", 'O')]

structure CutStyle where
  kind : PositionKind
  ranges : List Positions
  complement : Bool
  separator : UInt8
  onlySeparated : Bool
  between : ByteArray

def CutStyle.ofFlags (flags : Flags) : Except String CutStyle := do
  let separators := flags.values 'd'
  if separators.any fun text => text.utf8ByteSize > 1 then
    throw "the delimiter must be a single character"
  match flags.given.filter fun entry => entry.1 = 'c' || entry.1 = 'b' || entry.1 = 'f' with
  | [] => throw "you must specify a list of bytes, characters, or fields"
  | _ :: _ :: _ => throw "only one list may be specified"
  | [(letter, list)] =>
    let kind : PositionKind := if letter = 'f' then .fields else .bytes
    if kind = .bytes && !separators.isEmpty then
      throw "an input delimiter may be specified only when operating on fields"
    if kind = .bytes && flags.has 's' then
      throw "suppressing non-delimited lines makes sense\n\tonly when operating on fields"
    let separator := match separators.getLast? with
      | none => 9
      | some text => (Bytes.toList text.toUTF8).headD 0
    let between := (flags.value? 'O').map String.toUTF8
    return { kind := kind
             ranges := ← readPositions kind {} list.toList
             complement := flags.has 'C'
             separator := separator
             onlySeparated := flags.has 's'
             between := between.getD (if kind = .fields then Bytes.ofList [separator]
               else ByteArray.empty) }

/-- The bytes at chosen positions; where an output separator is given it stands between runs. -/
def CutStyle.line (style : CutStyle) (line : ByteArray) : ByteArray :=
  let chosen (position : Nat) : Bool :=
    (style.ranges.any fun range => range.contains position) != style.complement
  match style.kind with
  | .fields => cutFields style.separator style.onlySeparated style.between chosen line
  | .bytes =>
    let bytes := (Bytes.toList (Bytes.chomp line)).zipIdx 1
    let begins (position : Nat) : Bool :=
      position > 1 && !chosen (position - 1) && bytes.any fun item =>
        item.2 < position && chosen item.2
    (Bytes.concat (bytes.map fun item =>
      if !chosen item.2 then ByteArray.empty
      else if !style.between.isEmpty && begins item.2 then style.between.push item.1
      else Bytes.ofList [item.1])).push Bytes.newline

def cut : Tool := withFlags cutFlags 1 fun call flags =>
  match CutStyle.ofFlags flags with
  | .error problem => misuse call 1 problem
  | .ok style => lineByLine call {} flags.operands style.line

def joinedInTurn (all : List ByteArray) : List ByteArray → List ByteArray → ByteArray
  | _, [] => ByteArray.empty
  | _, [last] => last
  | [], part :: rest => part ++ (all.headD ByteArray.empty) ++ joinedInTurn all (all.drop 1) rest
  | separator :: others, part :: rest => part ++ separator ++ joinedInTurn all others rest

def sideBySide (separators : List ByteArray) : Nat → List (List ByteArray) → ByteArray
  | 0, _ => ByteArray.empty
  | left + 1, files =>
    if files.all List.isEmpty then ByteArray.empty
    else
      let firsts := files.map fun lines => lines.headD ByteArray.empty
      (joinedInTurn separators separators firsts).push Bytes.newline ++
        sideBySide separators left (files.map List.tail)

def separatorsOf : List Char → List ByteArray
  | [] => []
  | '\\' :: 'n' :: rest => "\n".toUTF8 :: separatorsOf rest
  | '\\' :: 't' :: rest => "\t".toUTF8 :: separatorsOf rest
  | '\\' :: '0' :: rest => ByteArray.empty :: separatorsOf rest
  | '\\' :: c :: rest => c.toString.toUTF8 :: separatorsOf rest
  | c :: rest => c.toString.toUTF8 :: separatorsOf rest

def inTurns (readers : Nat) (lines : List ByteArray) (reader : Nat) : List ByteArray :=
  (lines.zipIdx.filter fun entry => entry.2 % readers = reader).map Prod.fst

/-- The lines of each operand; those of the input are shared by all dashes. -/
def sharedLines (call : Call) (serial : Bool) (dashes : Nat) :
    Nat → List ByteArray → List String → Program (List (List ByteArray) × UInt8)
  | _, _, [] => return ([], 0)
  | seen, shared, name :: rest => do
    if name = "-" then
      let shared ← if seen = 0 then (do
          let data ← readOperand call {} name
          pure (Bytes.bareLines (data.getD ByteArray.empty)))
        else pure shared
      let mine := if !serial then inTurns dashes shared seen else if seen = 0 then shared else []
      let others ← sharedLines call serial dashes (seen + 1) shared rest
      return (mine :: others.1, others.2)
    else
      let data ← readOperand call {} name
      let others ← sharedLines call serial dashes seen shared rest
      match data with
      | some data => return (Bytes.bareLines data :: others.1, others.2)
      | none => return (others.1, 1)

def endsInEscape (text : String) : Bool :=
  (text.toList.reverse.takeWhile (· = '\\')).length % 2 = 1

def paste : Tool := withFlags { plain := ['s'], valued := ['d'] } 1 fun call flags => do
  let written := (flags.value? 'd').getD "\t"
  if endsInEscape written then
    return ← fail call 1 ("delimiter list ends with an unescaped backslash: " ++ asName written)
  let separators := separatorsOf written.toList
  let names := orInput flags.operands
  let (files, code) ← sharedLines call (flags.has 's') (names.count "-") 0 [] names
  if flags.has 's' then
    Program.emit .out (Bytes.concat (files.map fun lines =>
      (joinedInTurn separators separators lines).push Bytes.newline))
    return code
  else if code ≠ 0 then return code
  else do
    Program.emit .out (sideBySide separators (Bytes.total (files.map List.length)) files)
    return 0

end PipeShell.Machine.Tool
