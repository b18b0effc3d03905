import PipeShell.Machine.Tool.Pattern

/-!
The tool `expr`: it works out an expression whose operators and operands are arguments of their own.
-/
namespace PipeShell.Machine.Tool

namespace Expr

def integerOf? (text : String) : Option Int :=
  if text.startsWith "+" then none else Bytes.intOf? text

/-- Whether a text counts as true: neither empty nor a zero. -/
def truth (text : String) : Bool := text ≠ "" && integerOf? text ≠ some 0

def ofBool (value : Bool) : String := if value then "1" else "0"

def arithmetic (operator a b : String) : Except String String :=
  match integerOf? a, integerOf? b with
  | some a, some b =>
    match operator with
    | "+" => .ok (toString (a + b))
    | "-" => .ok (toString (a - b))
    | "*" => .ok (toString (a * b))
    | "/" => if b = 0 then .error "division by zero" else .ok (toString (a.tdiv b))
    | _ => if b = 0 then .error "division by zero" else .ok (toString (a.tmod b))
  | _, _ => .error "non-integer argument"

def comparison (operator a b : String) : String :=
  let order : Ordering := match integerOf? a, integerOf? b with
    | some a, some b => compare a b
    | _, _ => Bytes.order a.toUTF8 b.toUTF8
  ofBool (match operator with
    | "<" => order == .lt
    | "<=" => order != .gt
    | "=" | "==" => order == .eq
    | "!=" => order != .eq
    | ">=" => order != .lt
    | _ => order == .gt)

/-- What a pattern matches at the front of a text: its first group if it has one, else the size. -/
def fitted (text written : String) : Except String String :=
  let bytes := Bytes.toList written.toUTF8
  let grouped := (written.splitOn "\\(").length > 1
  match Pattern.ofBytes? ⟨false, false⟩ bytes with
  | none => .error "Invalid regular expression"
  | some pattern =>
    let data := text.toUTF8.data
    match pattern.matchAt data 0 with
    | none => .ok (if grouped then "" else "0")
    | some found =>
      match found.groups.lookup 1 with
      | some (first, last) => .ok (Bytes.toText ⟨data.extract first last⟩)
      | none => .ok (if grouped then "" else toString found.offset)

/-- The place of the first character of a text that is one of some others, from 1 on. -/
def indexOf (text members : String) : Nat :=
  match text.toList.findIdx? fun c => members.contains c with
  | some index => index + 1
  | none => 0

/-- A part of a text; nothing if the place or the size makes no sense. -/
def part (text place size : String) : String :=
  match Bytes.natOf? place, Bytes.natOf? size with
  | some (place + 1), some size => String.ofList ((text.toList.drop place).take size)
  | _, _ => ""

def levels : List (List String) :=
  [["|"], ["&"], ["<", "<=", "=", "==", "!=", ">=", ">"], ["+", "-"], ["*", "/", "%"], [":"]]

def combine (operator a b : String) : Except String String :=
  match operator with
  | "|" => .ok (if truth a then a else if truth b then b else "0")
  | "&" => .ok (if truth a && truth b then a else "0")
  | "+" | "-" | "*" | "/" | "%" => arithmetic operator a b
  | ":" => fitted a b
  | _ => .ok (comparison operator a b)

/-- Whether the second operand of an operator is worked out, given the first. -/
def needsSecond (operator first : String) : Bool :=
  match operator with
  | "|" => !truth first
  | "&" => truth first
  | _ => true

structure Place where
  last : String
  rest : List String

namespace Place

def next? (place : Place) : Option (String × Place) :=
  match place.rest with
  | [] => none
  | arg :: rest => some (arg, ⟨arg, rest⟩)

def next (place : Place) : Except String (String × Place) :=
  match place.next? with
  | some step => .ok step
  | none => .error ("syntax error: missing argument after " ++ quoted place.last)

def close (place : Place) : Except String Place :=
  match place.next? with
  | some (")", place) => .ok place
  | some (other, _) => .error ("syntax error: expecting ')' instead of " ++ quoted other)
  | none => .error ("syntax error: expecting ')' after " ++ quoted place.last)

end Place

mutual

/-- Reads operands joined by the operators of the first level. Where values are not wanted, nothing
can go wrong with them. -/
def readLevel (wanted : Bool) : Nat → List (List String) → Place → Except String (String × Place)
  | 0, _, _ => .error "syntax error"
  | fuel + 1, [], place => readOperand wanted fuel place
  | fuel + 1, operators :: tighter, place => do
    let (first, place) ← readLevel wanted fuel tighter place
    readMore wanted fuel operators tighter first place

def readMore (wanted : Bool) :
    Nat → List String → List (List String) → String → Place → Except String (String × Place)
  | 0, _, _, _, _ => .error "syntax error"
  | fuel + 1, operators, tighter, first, place =>
    match place.next? with
    | none => .ok (first, place)
    | some (operator, behind) =>
      if operators.contains operator then do
        let (second, behind) ← readLevel (wanted && needsSecond operator first) fuel tighter behind
        let value ← if wanted then combine operator first second else .ok first
        readMore wanted fuel operators tighter value behind
      else .ok (first, place)

/-- Reads an operand: a text, a function with its operands, or an expression in parentheses. -/
def readOperand (wanted : Bool) : Nat → Place → Except String (String × Place)
  | 0, _ => .error "syntax error"
  | fuel + 1, place => do
    let (arg, place) ← place.next
    match arg with
    | "+" => place.next
    | "(" => do
      let (value, place) ← readLevel wanted fuel levels place
      return (value, ← place.close)
    | ")" => .error "syntax error: unexpected ')'"
    | "length" => do
      let (text, place) ← readOperand wanted fuel place
      return (toString text.utf8ByteSize, place)
    | "index" => do
      let (text, place) ← readOperand wanted fuel place
      let (members, place) ← readOperand wanted fuel place
      return (toString (indexOf text members), place)
    | "match" => do
      let (text, place) ← readOperand wanted fuel place
      let (written, place) ← readOperand wanted fuel place
      let size ← if wanted then fitted text written else .ok text
      return (size, place)
    | "substr" => do
      let (text, place) ← readOperand wanted fuel place
      let (first, place) ← readOperand wanted fuel place
      let (size, place) ← readOperand wanted fuel place
      return (part text first size, place)
    | _ => return (arg, place)

end

def value (args : List String) : Except String String := do
  let (value, place) ← readLevel true (16 * args.length + 16) levels ⟨"", args⟩
  match place.rest with
  | [] => return value
  | extra :: _ => .error ("syntax error: unexpected argument " ++ quoted extra)

end Expr

def expr : Tool := fun call => do
  let args := if call.args.head? = some "--" then call.args.drop 1 else call.args
  if args.isEmpty then misuse call 2 "missing operand"
  else match Expr.value args with
    | .error problem => fail call 2 problem
    | .ok value => do
      Program.put (value ++ "\n")
      return if Expr.truth value then 0 else 1

end PipeShell.Machine.Tool
