import PipeShell.Machine.Bytes
import PipeShell.Machine.Program
import PipeShell.Machine.Script.Syntax

/-!
What words stand for. Parameters, the output of scripts and arithmetic are put in their places;
unquoted results are split into fields; fields with unquoted signs of a pattern are replaced by the
paths that fit.
-/
namespace PipeShell.Machine.Script

structure State where
  name : String
  arguments : List String
  bindings : List (String × String) := []
  /-- The names of the variables that programs get, in the order in which they were marked. -/
  exported : List String := []
  functions : List (String × Statement) := []
  /-- The values to put back at the end of the function that runs; nothing outside of functions. -/
  saved : Option (List (String × Option String)) := none
  /-- What is done at signals and at the end; no script means to ignore the signal. -/
  traps : List (Nat × Option Statement) := []
  directory : NodeId
  status : Nat := 0
  process : Nat
  /-- The options of one letter that are on. -/
  options : List Char := []
  /-- Where the two channels of its commands go. -/
  out : Program.Route := .channel .out
  err : Program.Route := .channel .err

namespace State

def isStrict (state : State) : Bool := state.options.contains 'e'

def needsValues (state : State) : Bool := state.options.contains 'u'

/-- Whether fields stay as they are even if they look like patterns of paths. -/
def keepsPatterns (state : State) : Bool := state.options.contains 'f'

def isTraced (state : State) : Bool := state.options.contains 'x'

def isIdle (state : State) : Bool := state.options.contains 'n'

def set (state : State) (name value : String) : State :=
  { state with bindings := (name, value) :: state.bindings.filter fun entry => entry.1 ≠ name }

def remove (state : State) (name : String) : State :=
  { state with
    bindings := state.bindings.filter fun entry => entry.1 ≠ name
    exported := state.exported.filter (· ≠ name) }

def markExported (state : State) (name : String) : State :=
  if state.exported.contains name then state
  else { state with exported := state.exported ++ [name] }

def value? (state : State) (name : String) : Option String :=
  match name with
  | "?" => some (toString state.status)
  | "#" => some (toString state.arguments.length)
  | "$" => some (toString state.process)
  | "0" => some state.name
  | "-" => some (String.ofList ("efnsxvu".toList.filter state.options.contains))
  | "!" => none
  | "@" | "*" =>
    if state.arguments.isEmpty then none else some (String.intercalate " " state.arguments)
  | _ =>
    match Bytes.natOf? name with
    | some n => state.arguments[n - 1]?
    | none => state.bindings.lookup name

end State

/-! ### Patterns -/

abbrev Glyph := Char × Bool

/-- The members of a bracket up to its end: whether a character is one of them, and what follows. -/
def bracketMembers (c : Char) : Nat → Bool → List Glyph → Option (Bool × List Glyph)
  | 0, _, _ => none
  | _ + 1, _, [] => none
  | fuel + 1, first, (']', active) :: rest =>
    if first || !active then
      (bracketMembers c fuel false rest).map fun found => (c = ']' || found.1, found.2)
    else some (false, rest)
  | fuel + 1, _, (low, _) :: ('-', true) :: (high, active) :: rest =>
    if high = ']' && active then
      (bracketMembers c fuel false (('-', true) :: (high, active) :: rest)).map fun found =>
        (c = low || found.1, found.2)
    else
      (bracketMembers c fuel false rest).map fun found =>
        ((low ≤ c && c ≤ high) || found.1, found.2)
  | fuel + 1, _, (member, _) :: rest =>
    (bracketMembers c fuel false rest).map fun found => (c = member || found.1, found.2)

def fits : Nat → List Glyph → List Char → Bool
  | 0, _, _ => false
  | _ + 1, [], text => text.isEmpty
  | fuel + 1, ('*', true) :: rest, text =>
    fits fuel rest text || (match text with
      | [] => false
      | _ :: more => fits fuel (('*', true) :: rest) more)
  | fuel + 1, ('?', true) :: rest, text =>
    match text with
    | [] => false
    | _ :: more => fits fuel rest more
  | fuel + 1, ('[', true) :: rest, text =>
    match text with
    | [] => false
    | c :: more =>
      let negated := rest.head?.any fun glyph => glyph.1 = '!' || glyph.1 = '^'
      match bracketMembers c (rest.length + 1) true (if negated then rest.drop 1 else rest) with
      | some (found, after) => found != negated && fits fuel after more
      | none => c = '[' && fits fuel rest more
  | fuel + 1, (sign, _) :: rest, text =>
    match text with
    | [] => false
    | c :: more => c = sign && fits fuel rest more

def fitsText (pattern : List Glyph) (text : String) : Bool :=
  fits (2 * (pattern.length + text.length) + 2) pattern text.toList

def isPattern (field : List Glyph) : Bool :=
  field.any fun glyph => glyph.2 && (glyph.1 = '*' || glyph.1 = '?' || glyph.1 = '[')

def plainOf (field : List Glyph) : String := String.ofList (field.map Prod.fst)

def pathParts (field : List Glyph) : List (List Glyph) :=
  field.foldr (fun glyph parts =>
    if glyph.1 = '/' then [] :: parts
    else match parts with
      | [] => [[glyph]]
      | part :: others => (glyph :: part) :: others) [[]]

/-- The names in a directory that a part of a path fits, in the order of their bytes. -/
def namesFitting (tree : FileTree) (base : NodeId) (directory : String) (part : List Glyph) :
    List String :=
  match tree.node base (if directory.isEmpty then "." else directory) with
  | .ok (.directory _ entries) =>
    let hidden := part.head?.any fun glyph => glyph.1 = '.'
    let names := (entries.map Prod.fst).filter fun name =>
      (hidden || !name.startsWith ".") && fitsText part name
    names.mergeSort fun a b => Bytes.order a.toUTF8 b.toUTF8 != .gt
  | _ => []

def pathsFitting (tree : FileTree) (base : NodeId) : String → List (List Glyph) → List String
  | path, [] => [path]
  | path, [part] =>
    if isPattern part then (namesFitting tree base path part).map (path ++ ·)
    else
      let whole := path ++ plainOf part
      let entry := tree.resolve base (if whole.isEmpty then "." else whole) false
      if entry.toOption.isSome then [whole] else []
  | path, part :: rest =>
    if isPattern part then
      (namesFitting tree base path part).flatMap fun name =>
        pathsFitting tree base (path ++ name ++ "/") rest
    else pathsFitting tree base (path ++ plainOf part ++ "/") rest

def pathsOf (tree : FileTree) (base : NodeId) (field : List Glyph) : List String :=
  if !isPattern field then [plainOf field]
  else match pathsFitting tree base "" (pathParts field) with
    | [] => [plainOf field]
    | paths => paths

/-! ### Arithmetic -/

namespace Arithmetic

inductive Sign where
  | number (value : Int)
  | variable (name : String)
  | operator (text : String)
  deriving DecidableEq, Repr

def operators : List String :=
  ["<<", ">>", "<=", ">=", "==", "!=", "&&", "||", "+=", "-=", "*=", "/=", "%=", "+", "-", "*", "/",
    "%", "<", ">", "!", "~", "&", "|", "^", "(", ")", "?", ":", "="]

def digitValue? (base : Nat) (c : Char) : Option Nat :=
  let value := if c.isDigit then c.toNat - 48
    else if 'a' ≤ c.toLower && c.toLower ≤ 'f' then c.toLower.toNat - 87 else 99
  if value < base then some value else none

def number (text : List Char) : Int × List Char :=
  let digits (base : Nat) (text : List Char) : Int × List Char :=
    let run := text.takeWhile fun c => (digitValue? base c).isSome
    ((run.foldl (fun n c => n * base + (digitValue? base c).getD 0) 0 : Nat), text.drop run.length)
  match text with
  | '0' :: 'x' :: rest | '0' :: 'X' :: rest => digits 16 rest
  | '0' :: _ => digits 8 text
  | _ => digits 10 text

def signs : Nat → List Char → Option (List Sign)
  | 0, _ => none
  | _ + 1, [] => some []
  | fuel + 1, c :: rest =>
    if c.isWhitespace then signs fuel rest
    else if c.isDigit then
      let read := number (c :: rest)
      (signs fuel read.2).map (.number read.1 :: ·)
    else if c.isAlpha || c = '_' then
      let name := (c :: rest).takeWhile fun c => c.isAlphanum || c = '_'
      (signs fuel ((c :: rest).drop name.length)).map (.variable (String.ofList name) :: ·)
    else match operators.find? fun text => (c :: rest).take text.length = text.toList with
      | some text => (signs fuel ((c :: rest).drop text.length)).map (.operator text :: ·)
      | none => none

def levels : List (List String) :=
  [["||"], ["&&"], ["|"], ["^"], ["&"], ["==", "!="], ["<", "<=", ">", ">="], ["<<", ">>"],
    ["+", "-"], ["*", "/", "%"]]

def ofBool (value : Bool) : Int := if value then 1 else 0

def wrap (value : Int) : Int := value.bmod (1 <<< 64)

def combine (operator : String) (a b : Int) : Option Int :=
  match operator with
  | "||" => some (ofBool (a ≠ 0 || b ≠ 0))
  | "&&" => some (ofBool (a ≠ 0 && b ≠ 0))
  | "|" => some (Int64.ofInt a ||| Int64.ofInt b).toInt
  | "^" => some (Int64.ofInt a ^^^ Int64.ofInt b).toInt
  | "&" => some (Int64.ofInt a &&& Int64.ofInt b).toInt
  | "==" => some (ofBool (a = b))
  | "!=" => some (ofBool (a ≠ b))
  | "<" => some (ofBool (a < b))
  | "<=" => some (ofBool (a ≤ b))
  | ">" => some (ofBool (b < a))
  | ">=" => some (ofBool (b ≤ a))
  | "<<" => some (Int64.ofInt a <<< Int64.ofInt b).toInt
  | ">>" => some (Int64.ofInt a >>> Int64.ofInt b).toInt
  | "+" => some (wrap (a + b))
  | "-" => some (wrap (a - b))
  | "*" => some (wrap (a * b))
  | "/" => if b = 0 then none else some (wrap (a.tdiv b))
  | "%" => if b = 0 then none else some (a.tmod b)
  | _ => none

def valueOf (state : State) (name : String) : Int :=
  ((state.bindings.lookup name).bind fun text => Bytes.intOf? text.trimAscii.toString).getD 0

abbrev Evaluated := Option (Int × State × List Sign)

mutual

def whole : Nat → State → List Sign → Evaluated
  | 0, _, _ => none
  | fuel + 1, state, .variable name :: .operator sign :: rest =>
    if sign = "=" then
      match whole fuel state rest with
      | some (value, state, rest) => some (value, state.set name (toString value), rest)
      | none => none
    else if ["+=", "-=", "*=", "/=", "%="].contains sign then
      match whole fuel state rest with
      | some (value, state, rest) =>
        (combine (sign.dropEnd 1).toString (valueOf state name) value).map fun value =>
          (value, state.set name (toString value), rest)
      | none => none
    else choice fuel state (.variable name :: .operator sign :: rest)
  | fuel + 1, state, signs => choice fuel state signs

def choice : Nat → State → List Sign → Evaluated
  | 0, _, _ => none
  | fuel + 1, state, signs =>
    match level fuel state levels signs with
    | some (condition, state, .operator "?" :: rest) =>
      match whole fuel state rest with
      | some (yes, _, .operator ":" :: rest) =>
        match whole fuel state rest with
        | some (no, state, rest) => some (if condition ≠ 0 then yes else no, state, rest)
        | none => none
      | _ => none
    | found => found

def level : Nat → State → List (List String) → List Sign → Evaluated
  | 0, _, _, _ => none
  | fuel + 1, state, [], signs => unary fuel state signs
  | fuel + 1, state, operators :: tighter, signs =>
    match level fuel state tighter signs with
    | some (first, state, rest) => more fuel state operators tighter first rest
    | none => none

def more : Nat → State → List String → List (List String) → Int → List Sign → Evaluated
  | 0, _, _, _, _, _ => none
  | fuel + 1, state, operators, tighter, first, signs =>
    match signs with
    | .operator sign :: rest =>
      if operators.contains sign then
        match level fuel state tighter rest with
        | some (second, state, rest) =>
          match combine sign first second with
          | some value => more fuel state operators tighter value rest
          | none => none
        | none => none
      else some (first, state, signs)
    | _ => some (first, state, signs)

def unary : Nat → State → List Sign → Evaluated
  | 0, _, _ => none
  | fuel + 1, state, signs =>
    match signs with
    | .operator "-" :: rest => (unary fuel state rest).map fun found => (wrap (-found.1), found.2)
    | .operator "+" :: rest => unary fuel state rest
    | .operator "!" :: rest =>
      (unary fuel state rest).map fun found => (ofBool (found.1 = 0), found.2)
    | .operator "~" :: rest => (unary fuel state rest).map fun found => (-found.1 - 1, found.2)
    | .operator "(" :: rest =>
      match whole fuel state rest with
      | some (value, state, .operator ")" :: rest) => some (value, state, rest)
      | _ => none
    | .number value :: rest => some (wrap value, state, rest)
    | .variable name :: rest => some (valueOf state name, state, rest)
    | _ => none

end

def evaluate (state : State) (text : String) : Option (Int × State) :=
  match signs (text.length + 1) text.toList with
  | none => none
  | some [] => some (0, state)
  | some list =>
    match whole (16 * list.length + 32) state list with
    | some (value, state, []) => some (value, state)
    | _ => none

end Arithmetic

/-! ### Fields -/

inductive Fragment where
  /-- Quoted text, which makes a field even if it is empty. -/
  | solid (text : String)
  /-- Text as it stands in the script. -/
  | literal (text : String)
  /-- The result of an expansion, to be split. -/
  | soft (text : String)
  /-- The end of a field. -/
  | boundary
  deriving DecidableEq, Repr

def Fragment.text : Fragment → String
  | solid text | literal text | soft text => text
  | boundary => " "

abbrev FieldState := List (List Glyph) × Option (List Glyph)

def addGlyphs (fields : FieldState) (text : String) (active : Bool) : FieldState :=
  (fields.1, some ((fields.2.getD []) ++ text.toList.map fun c => (c, active)))

def endField (fields : FieldState) : FieldState :=
  match fields.2 with
  | some field => (fields.1 ++ [field], none)
  | none => fields

/-- Puts one character of a result to its place: a blank separator ends a field, and any other
separator ends one even if it is empty. -/
def addSoft (separators : String) (fields : FieldState) (c : Char) : FieldState :=
  if !separators.contains c then addGlyphs fields c.toString true
  else if c = ' ' || c = '\t' || c = '\n' then endField fields
  else (fields.1 ++ [fields.2.getD []], none)

def addFragment (separators : String) (fields : FieldState) : Fragment → FieldState
  | .solid text => addGlyphs fields text false
  | .literal text => if text.isEmpty then fields else addGlyphs fields text true
  | .soft text => text.toList.foldl (addSoft separators) fields
  | .boundary => endField fields

def fieldsOf (separators : String) (fragments : List Fragment) : List (List Glyph) :=
  (endField (fragments.foldl (addFragment separators) ([], none))).1

def glyphsOf (fragments : List Fragment) : List Glyph :=
  fragments.flatMap fun fragment =>
    fragment.text.toList.map fun c => (c, match fragment with
      | .solid _ => false
      | _ => true)

def textOf (fragments : List Fragment) : String := String.join (fragments.map Fragment.text)

/-! ### Expansion -/

structure ExpansionFault where
  message : String

abbrev Expanded := Except ExpansionFault (State × List Fragment)

/-- The shortest or the longest part at one end that a pattern fits is cut off. -/
def cutStart (pattern : List Glyph) (longest : Bool) (value : String) : String :=
  let chars := value.toList
  let lengths := List.range (chars.length + 1)
  match (if longest then lengths.reverse else lengths).find? fun n =>
      fitsText pattern (String.ofList (chars.take n)) with
  | some n => String.ofList (chars.drop n)
  | none => value

def cutEnd (pattern : List Glyph) (longest : Bool) (value : String) : String :=
  let chars := value.toList
  let lengths := List.range (chars.length + 1)
  match (if longest then lengths.reverse else lengths).find? fun n =>
      fitsText pattern (String.ofList (chars.drop (chars.length - n))) with
  | some n => String.ofList (chars.take (chars.length - n))
  | none => value

def resultOf (quoted : Bool) (text : String) : List Fragment :=
  if quoted then [.solid text] else [.soft text]

def argumentFragments (arguments : List String) (quoted : Bool) : List Fragment :=
  let fragments := arguments.map fun text => if quoted then Fragment.solid text else .soft text
  fragments.intersperse .boundary

def withoutNewlines (text : String) : String :=
  String.ofList (text.toList.reverse.dropWhile (· = '\n')).reverse

def separatorsOf (state : State) : String := (state.bindings.lookup "IFS").getD " \t\n"

mutual

/-- Expands the pieces of a word. `substitute` runs a script for its output. -/
def expandPieces (substitute : State → Statement → Program (State × String)) :
    Nat → State → List Piece → Program Expanded
  | 0, _, _ => .killed overtimeSignal
  | _ + 1, state, [] => return .ok (state, [])
  | fuel + 1, state, piece :: rest => do
    match ← expandPiece substitute fuel state piece with
    | .error fault => return .error fault
    | .ok (state, first) =>
      match ← expandPieces substitute fuel state rest with
      | .error fault => return .error fault
      | .ok (state, others) => return .ok (state, first ++ others)

def expandPiece (substitute : State → Statement → Program (State × String)) :
    Nat → State → Piece → Program Expanded
  | 0, _, _ => .killed overtimeSignal
  | fuel + 1, state, piece =>
    match piece with
    | .text value true => return .ok (state, [.solid value])
    | .text value false => return .ok (state, [.literal value])
    | .output script quoted => do
      let (state, text) ← substitute state script
      return .ok (state, resultOf quoted (withoutNewlines text))
    | .arithmetic expression quoted => do
      match ← expandPieces substitute fuel state expression with
      | .error fault => return .error fault
      | .ok (state, fragments) =>
        match Arithmetic.evaluate state (textOf fragments) with
        | some (value, state) => return .ok (state, resultOf quoted (toString value))
        | none =>
          return .error ⟨"arithmetic expression: syntax error: \"" ++ textOf fragments ++ "\""⟩
    | .parameter "@" .plain _ quoted =>
      return .ok (state, argumentFragments state.arguments quoted)
    | .parameter "*" .plain _ quoted =>
      let separator := ((separatorsOf state).toList.head?.map Char.toString).getD ""
      return .ok (state, if quoted then [.solid (String.intercalate separator state.arguments)]
        else argumentFragments state.arguments false)
    | .parameter name form word quoted => do
      let value := state.value? name
      let isUnset (orEmpty : Bool) : Bool := value.isNone || (orEmpty && value = some "")
      match form with
      | .plain =>
        if value.isNone && state.needsValues then return .error ⟨name ++ ": parameter not set"⟩
        else return .ok (state, resultOf quoted (value.getD ""))
      | .length =>
        let size := if name = "@" || name = "*" then state.arguments.length
          else (value.getD "").length
        return .ok (state, resultOf quoted (toString size))
      | .orElse orEmpty =>
        if isUnset orEmpty then expandPieces substitute fuel state word
        else return .ok (state, resultOf quoted (value.getD ""))
      | .instead orEmpty =>
        if isUnset orEmpty then return .ok (state, if quoted then [.solid ""] else [])
        else expandPieces substitute fuel state word
      | .orAssign orEmpty =>
        if isUnset orEmpty then do
          match ← expandPieces substitute fuel state word with
          | .error fault => return .error fault
          | .ok (state, fragments) =>
            return .ok (state.set name (textOf fragments), resultOf quoted (textOf fragments))
        else return .ok (state, resultOf quoted (value.getD ""))
      | .orFail orEmpty =>
        if isUnset orEmpty then do
          match ← expandPieces substitute fuel state word with
          | .error fault => return .error fault
          | .ok (_, fragments) =>
            let said := textOf fragments
            return .error ⟨name ++ ": " ++ (if said.isEmpty then
              (if orEmpty then "parameter not set or null" else "parameter not set") else said)⟩
        else return .ok (state, resultOf quoted (value.getD ""))
      | .cutStart longest => do
        match ← expandPieces substitute fuel state word with
        | .error fault => return .error fault
        | .ok (state, fragments) =>
          return .ok
            (state, resultOf quoted (cutStart (glyphsOf fragments) longest (value.getD "")))
      | .cutEnd longest => do
        match ← expandPieces substitute fuel state word with
        | .error fault => return .error fault
        | .ok (state, fragments) =>
          return .ok (state, resultOf quoted (cutEnd (glyphsOf fragments) longest (value.getD "")))

end

def expansionLimit : Nat := 1000000

def expandWord (substitute : State → Statement → Program (State × String)) (state : State)
    (word : Word) : Program (Except ExpansionFault (State × List String)) := do
  match ← expandPieces substitute expansionLimit state word with
  | .error fault => return .error fault
  | .ok (state, fragments) =>
    let tree ← Program.tree
    let fields := fieldsOf (separatorsOf state) fragments
    return .ok (state, if state.keepsPatterns then fields.map plainOf
      else fields.flatMap (pathsOf tree state.directory))

def expandWords (substitute : State → Statement → Program (State × String)) (state : State) :
    List Word → Program (Except ExpansionFault (State × List String))
  | [] => return .ok (state, [])
  | word :: rest => do
    match ← expandWord substitute state word with
    | .error fault => return .error fault
    | .ok (state, first) =>
      match ← expandWords substitute state rest with
      | .error fault => return .error fault
      | .ok (state, others) => return .ok (state, first ++ others)

def expandGlyphs (substitute : State → Statement → Program (State × String)) (state : State)
    (word : Word) : Program (Except ExpansionFault (State × List Glyph)) := do
  match ← expandPieces substitute expansionLimit state word with
  | .error fault => return .error fault
  | .ok (state, fragments) => return .ok (state, glyphsOf fragments)

end PipeShell.Machine.Script
