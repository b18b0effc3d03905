import PipeShell.Machine.Tool.Condition

/-!
Conditions as scripts judge them themselves. They ask the same of files, texts and numbers as the
tool `test` does, but read their arguments more loosely: an operator without room for its operands
is text.
-/
namespace PipeShell.Machine.Script.Condition

open Tool.Condition (Scene unary? comparison? betweenFiles? letterOf? number?)

inductive Problem where
  | missingBracket
  | unexpectedOperator (argument : String)
  | missingOperand (operator : String)
  | noNumber (argument : String)
  | unclosed
  | tooDeep
  deriving DecidableEq, Repr

def Problem.message : Problem → String
  | .missingBracket => "missing ]"
  | .unexpectedOperator argument =>
    (if argument.isEmpty then "" else argument ++ ": ") ++ "unexpected operator"
  | .missingOperand operator => operator ++ ": argument expected"
  | .noNumber argument => "Illegal number: " ++ argument
  | .unclosed => "closing paren expected"
  | .tooDeep => "too many conditions in each other"

inductive Sign where
  | nothing
  | operand
  | unary (letter : Char)
  | binary (operator : String)
  | negation
  | both
  | either
  | opening
  | closing
  deriving DecidableEq, Repr

def unaryLetters : List Char := "rwxefdcbpugkstznhOGLS".toList

def binaryOperators : List String :=
  ["=", "!=", "<", ">", "-eq", "-ne", "-ge", "-gt", "-le", "-lt", "-nt", "-ot", "-ef"]

/-- The first of some arguments as a sign. An operator on one operand is text if nothing follows it,
or if a binary operator with its operand does; a parenthesis is text if nothing follows it. -/
def signOf : List String → Sign
  | [] => .nothing
  | a :: rest =>
    if binaryOperators.contains a then .binary a
    else match a with
      | "!" => .negation
      | "-a" => .both
      | "-o" => .either
      | "(" => if rest.isEmpty then .operand else .opening
      | ")" => .closing
      | _ =>
        match letterOf? a, rest with
        | some letter, next :: others =>
          if unaryLetters.contains letter && (others.isEmpty || !binaryOperators.contains next) then
            .unary letter
          else .operand
        | _, _ => .operand

def boundedNumber? (text : String) : Option Int :=
  (number? text).filter fun n => Int64.minValue.toInt ≤ n && n ≤ Int64.maxValue.toInt

def binary (scene : Scene) (a operator b : String) : Except Problem Bool :=
  match comparison? operator with
  | some holds =>
    match boundedNumber? a, boundedNumber? b with
    | some x, some y => .ok (holds x y)
    | none, _ => .error (.noNumber a)
    | _, none => .error (.noNumber b)
  | none =>
    match operator with
    | "=" => .ok (a = b)
    | "!=" => .ok (a ≠ b)
    | "<" => .ok (a < b)
    | ">" => .ok (b < a)
    | _ => .ok ((betweenFiles? scene a operator b).getD false)

/-- A truth value with the arguments from the last one on that it came from. -/
abbrev Judged := Except Problem (Bool × List String)

mutual

/-- Conditions joined by `-o`, of which the first begins with this sign. -/
def judgeAny (scene : Scene) : Nat → Sign → List String → Judged
  | 0, _, _ => .error .tooDeep
  | fuel + 1, sign, args =>
    match judgeAll scene fuel sign args with
    | .error problem => .error problem
    | .ok (first, place) =>
      if signOf (place.drop 1) = .either then
        (judgeAny scene fuel (signOf (place.drop 2)) (place.drop 2)).map fun judged =>
          (first || judged.1, judged.2)
      else .ok (first, place)

def judgeAll (scene : Scene) : Nat → Sign → List String → Judged
  | 0, _, _ => .error .tooDeep
  | fuel + 1, sign, args =>
    match judgeTerm scene fuel sign args with
    | .error problem => .error problem
    | .ok (first, place) =>
      if signOf (place.drop 1) = .both then
        (judgeAll scene fuel (signOf (place.drop 2)) (place.drop 2)).map fun judged =>
          (first && judged.1, judged.2)
      else .ok (first, place)

/-- One condition. A missing one does not hold, and neither does an empty group. -/
def judgeTerm (scene : Scene) : Nat → Sign → List String → Judged
  | 0, _, _ => .error .tooDeep
  | fuel + 1, sign, args =>
    match sign, args with
    | .nothing, _ => .ok (false, args)
    | .negation, a :: rest =>
      (judgeTerm scene fuel (signOf rest) (if rest.isEmpty then [a] else rest)).map fun judged =>
        (!judged.1, judged.2)
    | .opening, _ :: rest =>
      if signOf rest = .closing then .ok (false, rest)
      else match judgeAny scene fuel (signOf rest) rest with
        | .error problem => .error problem
        | .ok (value, place) =>
          if signOf (place.drop 1) = .closing then .ok (value, place.drop 1) else .error .unclosed
    | .unary letter, a :: rest =>
      match rest with
      | [] => .error (.missingOperand a)
      | operand :: _ => .ok ((unary? scene letter operand).getD false, rest)
    | _, a :: rest =>
      match signOf rest, rest with
      | .binary operator, _ :: b :: others =>
        (binary scene a operator b).map fun value => (value, b :: others)
      | .binary operator, _ => .error (.missingOperand operator)
      | _, _ => .ok (!a.isEmpty, args)
    | _, [] => .ok (false, [])

end

/-- Whether the condition of an argument list holds; nothing at all does not. Three arguments with a
binary operator between them are a comparison whatever they are; before other lists of three or four
arguments a negation counts for all of them, and parentheses around them count for nothing. -/
def holds (scene : Scene) (args : List String) : Except Problem Bool :=
  let read (sign : Sign) (args : List String) : Except Problem Bool :=
    match judgeAny scene (4 * args.length + 8) sign args with
    | .error problem => .error problem
    | .ok (_, last :: _ :: _) => .error (.unexpectedOperator last)
    | .ok (value, _) => .ok value
  let withoutGroup (args : List String) : List String :=
    if args.head? = some "(" && args.getLast? = some ")" then (args.drop 1).dropLast else args
  let readThree (args : List String) : Except Problem Bool :=
    if binaryOperators.contains ((args.drop 1).headD "") then read .operand args
    else if args.head? = some "!" then (read (signOf (args.drop 1)) (args.drop 1)).map not
    else read (signOf (withoutGroup args)) (withoutGroup args)
  match args.length with
  | 0 => .ok false
  | 3 => readThree args
  | 4 =>
    if args.head? = some "!" then (readThree (args.drop 1)).map not
    else read (signOf (withoutGroup args)) (withoutGroup args)
  | _ => read (signOf args) args

def argumentsOf (bracketed : Bool) (args : List String) : Except Problem (List String) :=
  if !bracketed then .ok args
  else if (args.getLastD "").startsWith "]" then .ok args.dropLast
  else .error .missingBracket

end PipeShell.Machine.Script.Condition
