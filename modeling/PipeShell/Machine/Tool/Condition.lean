import PipeShell.Machine.Bytes
import PipeShell.Machine.Tool.Flags

/-!
Conditions on files, texts and numbers, as `test` takes them from an argument list. Up to four
arguments their number decides how they are read; more of them are read from the left.
-/
namespace PipeShell.Machine.Tool

namespace Condition

structure Scene where
  tree : FileTree
  directory : NodeId

/-! ### Single conditions -/

def isFile (node : Option Node) (accepts : Nat → Content → Bool) : Bool :=
  match node with
  | some (.file mode content) => accepts mode content
  | _ => false

def isDirectory : Option Node → Bool
  | some (.directory _ _) => true
  | _ => false

/-- A condition on one operand, by its letter; nothing if the letter is not known. -/
def unary? (scene : Scene) (letter : Char) (operand : String) : Option Bool :=
  let node := (scene.tree.node scene.directory operand).toOption
  let hasMode (bits : Nat) : Bool := isFile node fun mode _ => mode &&& bits != 0
  match letter with
  | 'n' => some (!operand.isEmpty)
  | 'z' => some operand.isEmpty
  | 'e' | 'r' | 'w' | 'O' | 'G' | 'N' => some node.isSome
  | 'f' => some (isFile node fun _ _ => true)
  | 'x' => some (hasMode 0o111 || isDirectory node)
  | 's' => some (isDirectory node ||
      isFile node fun _ content => (FileTree.contentBytes content).size > 0)
  | 'd' => some (isDirectory node)
  | 'c' => some (match node with
      | some .nullDevice => true
      | _ => false)
  | 'h' | 'L' => some (match scene.tree.node scene.directory operand false with
      | .ok (.link _) => true
      | _ => false)
  | 'u' => some (hasMode 0o4000)
  | 'g' => some (hasMode 0o2000)
  | 'k' => some (hasMode 0o1000)
  | 'b' | 'p' | 'S' | 't' => some false
  | _ => none

def comparison? : String → Option (Int → Int → Bool)
  | "-eq" => some (· == ·)
  | "-ne" => some (· != ·)
  | "-lt" => some (· < ·)
  | "-le" => some (· ≤ ·)
  | "-gt" => some (· > ·)
  | "-ge" => some (· ≥ ·)
  | _ => none

def number? (text : String) : Option Int := Bytes.intOf? text.trimAscii.toString

/-- A condition on two files by its operator. All files count as equally old. -/
def betweenFiles? (scene : Scene) (a operator b : String) : Option Bool :=
  let first := (scene.tree.resolve scene.directory a).toOption
  let second := (scene.tree.resolve scene.directory b).toOption
  match operator with
  | "-ef" => some (first.isSome && first = second)
  | "-nt" => some (first.isSome && second.isNone)
  | "-ot" => some (first.isNone && second.isSome)
  | _ => none

/-! ### Argument lists -/

inductive Problem where
  | missingBracket
  | missingAfter (argument : String)
  | noUnary (argument : String)
  | noBinary (argument : String)
  | extra (argument : String)
  | noNumber (argument : String)
  | unclosed
  | unclosedBefore (argument : String)
  | tooDeep
  deriving DecidableEq, Repr

def Problem.message : Problem → String
  | .missingBracket => "missing ']'"
  | .missingAfter argument => "missing argument after " ++ quoted argument
  | .noUnary argument => quoted argument ++ ": unary operator expected"
  | .noBinary argument => quoted argument ++ ": binary operator expected"
  | .extra argument => "extra argument " ++ quoted argument
  | .noNumber argument => "invalid integer " ++ quoted argument
  | .unclosed => "')' expected"
  | .unclosedBefore argument => "')' expected, found " ++ quoted argument
  | .tooDeep => "too many conditions in each other"

/-- A condition on two operands; nothing if the operator is not known. -/
def binary? (scene : Scene) (a operator b : String) : Option (Except Problem Bool) :=
  match comparison? operator with
  | some holds =>
    match number? a, number? b with
    | some x, some y => some (.ok (holds x y))
    | none, _ => some (.error (.noNumber a))
    | _, none => some (.error (.noNumber b))
  | none =>
    match operator with
    | "=" | "==" => some (.ok (a = b))
    | "!=" => some (.ok (a ≠ b))
    | _ => (betweenFiles? scene a operator b).map .ok

def letterOf? (argument : String) : Option Char :=
  match argument.toList with
  | ['-', letter] => some letter
  | _ => none

abbrev Judged := Except Problem (Bool × List String)

def endsEarly (whole : List String) : Problem := .missingAfter (whole.getLastD "")

def judgeUnary (scene : Scene) (whole : List String) (operator : String) (rest : List String) :
    Judged :=
  match letterOf? operator, rest with
  | some letter, operand :: rest =>
    match unary? scene letter operand with
    | some value => .ok (value, rest)
    | none => .error (.noUnary operator)
  | some letter, [] =>
    .error (if (unary? scene letter "").isSome then endsEarly whole else .noUnary operator)
  | none, _ => .error (.noUnary operator)

def judgeTwo (scene : Scene) (whole : List String) (a b : String) (rest : List String) : Judged :=
  if a = "!" then .ok (b.isEmpty, rest)
  else if (letterOf? a).isSome then judgeUnary scene whole a (b :: rest)
  else .error (endsEarly whole)

/-- How many arguments a group holds, at most four; without an end nearby it holds all. -/
def groupSize (args : List String) : Nat :=
  let inner := ((args.drop 1).takeWhile (· ≠ ")")).length + 1
  if inner ≥ 4 then args.length else inner

mutual

def judge (scene : Scene) (whole : List String) : Nat → Nat → List String → Judged
  | 0, _, _ => .error .tooDeep
  | fuel + 1, count, args =>
    match count, args with
    | 1, a :: rest => .ok (!a.isEmpty, rest)
    | 2, a :: b :: rest => judgeTwo scene whole a b rest
    | 3, a :: b :: c :: rest => judgeThree scene whole fuel a b c rest
    | 4, "!" :: a :: b :: c :: rest =>
      (judgeThree scene whole fuel a b c rest).map fun judged => (!judged.1, judged.2)
    | 4, "(" :: a :: b :: ")" :: rest => judgeTwo scene whole a b rest
    | _, args => judgeAny scene whole fuel args

def judgeThree (scene : Scene) (whole : List String) (fuel : Nat) (a b c : String)
    (rest : List String) : Judged :=
  match fuel with
  | 0 => .error .tooDeep
  | fuel + 1 =>
    match binary? scene a b c with
    | some result => result.map fun value => (value, rest)
    | none =>
      if a = "!" then
        (judgeTwo scene whole b c rest).map fun judged => (!judged.1, judged.2)
      else if a = "(" && c = ")" then .ok (!b.isEmpty, rest)
      else if b = "-a" || b = "-o" then judgeAny scene whole fuel (a :: b :: c :: rest)
      else .error (.noBinary b)

def judgeAny (scene : Scene) (whole : List String) : Nat → List String → Judged
  | 0, _ => .error .tooDeep
  | fuel + 1, args =>
    match judgeAll scene whole fuel args with
    | .ok (first, "-o" :: rest) =>
      (judgeAny scene whole fuel rest).map fun judged => (first || judged.1, judged.2)
    | judged => judged

def judgeAll (scene : Scene) (whole : List String) : Nat → List String → Judged
  | 0, _ => .error .tooDeep
  | fuel + 1, args =>
    match judgeTerm scene whole fuel args with
    | .ok (first, "-a" :: rest) =>
      (judgeAll scene whole fuel rest).map fun judged => (first && judged.1, judged.2)
    | judged => judged

def judgeTerm (scene : Scene) (whole : List String) : Nat → List String → Judged
  | 0, _ => .error .tooDeep
  | fuel + 1, args =>
    match args with
    | [] => .error (endsEarly whole)
    | "!" :: rest =>
      (judgeTerm scene whole fuel rest).map fun judged => (!judged.1, judged.2)
    | ["("] => .error (endsEarly whole)
    | "(" :: inner =>
      match judge scene whole fuel (groupSize inner) inner with
      | .error problem => .error problem
      | .ok (value, ")" :: rest) => .ok (value, rest)
      | .ok (_, []) => .error .unclosed
      | .ok (_, found :: _) => .error (.unclosedBefore found)
    | a :: b :: c :: rest =>
      match binary? scene a b c with
      | some result => result.map fun value => (value, rest)
      | none => judgeShort scene whole a (b :: c :: rest)
    | a :: rest => judgeShort scene whole a rest

def judgeShort (scene : Scene) (whole : List String) (a : String) (rest : List String) : Judged :=
  if (letterOf? a).isSome then judgeUnary scene whole a rest else .ok (!a.isEmpty, rest)

end

/-- Whether the condition of an argument list holds; nothing at all does not. -/
def holds (scene : Scene) (args : List String) : Except Problem Bool :=
  if args.isEmpty then .ok false
  else match judge scene args (4 * args.length + 8) args.length args with
    | .error problem => .error problem
    | .ok (value, []) => .ok value
    | .ok (_, found :: _) => .error (.extra found)

def argumentsOf (bracketed : Bool) (args : List String) : Except Problem (List String) :=
  if !bracketed then .ok args
  else if args.getLast? = some "]" then .ok args.dropLast
  else .error .missingBracket

/-- The exit code of a condition: 0 if it holds, 1 if not, 2 if it is none. -/
def codeOf {ε : Type} : Except ε Bool → UInt8
  | .ok true => 0
  | .ok false => 1
  | .error _ => 2

end Condition

open Condition in
/-- The tool `test`, with a closing bracket under its other name. -/
def test (bracketed : Bool) : Tool := fun call => do
  let scene : Scene := ⟨← Program.tree, call.directory⟩
  let result := (argumentsOf bracketed call.args).bind (holds scene)
  match result with
  | .error problem => report call problem.message
  | .ok _ => pure ()
  return codeOf result

end PipeShell.Machine.Tool
