import PipeShell.Machine.Program
import PipeShell.Machine.Tool.Quoting

/-!
Argument lists of tools: single-letter flags, alone or run together, with or without a value, long
names for some of them, and operands, which may stand between the flags.
-/
namespace PipeShell.Machine.Tool

structure FlagSet where
  plain : List Char := []
  valued : List Char := []
  /-- Flags that take a value only from the same argument. -/
  attached : List Char := []
  /-- Long names with the flags that they stand for. -/
  long : List (String × Char) := []
  /-- Whether the first operand ends the flags. -/
  strict : Bool := false

structure Flags where
  given : List (Char × String) := []
  operands : List String := []
  deriving DecidableEq, Repr

namespace Flags

def has (flags : Flags) (flag : Char) : Bool := flags.given.any fun entry => entry.1 = flag

def value? (flags : Flags) (flag : Char) : Option String := flags.given.reverse.lookup flag

def values (flags : Flags) (flag : Char) : List String :=
  flags.given.filterMap fun entry => if entry.1 = flag then some entry.2 else none

/-- The number that a flag gives, or the usual one; the text if that is no number. -/
def number (flags : Flags) (flag : Char) (usual : Nat) : Except String Nat :=
  match flags.value? flag with
  | none => .ok usual
  | some text =>
    match Bytes.natOf? text with
    | some n => .ok n
    | none => .error text

def addFlag (flags : Flags) (flag : Char) (value : String) : Flags :=
  { flags with given := flags.given ++ [(flag, value)] }

def addOperand (flags : Flags) (operand : String) : Flags :=
  { flags with operands := flags.operands ++ [operand] }

end Flags

inductive FlagError where
  | unknown (flag : Char)
  | unknownLong (argument : String)
  | missingValue (flag : Char)
  deriving DecidableEq, Repr

def FlagError.message : FlagError → String
  | .unknown flag => "invalid option -- '" ++ flag.toString ++ "'"
  | .unknownLong argument => "unrecognized option '" ++ argument ++ "'"
  | .missingValue flag => "option requires an argument -- '" ++ flag.toString ++ "'"

inductive Cluster where
  | whole (flags : Flags)
  /-- The last letter takes the next argument as its value. -/
  | expecting (flags : Flags) (flag : Char)

namespace FlagSet

def readCluster (set : FlagSet) (flags : Flags) : List Char → Except FlagError Cluster
  | [] => .ok (.whole flags)
  | flag :: rest =>
    if set.plain.contains flag then readCluster set (flags.addFlag flag "") rest
    else if set.valued.contains flag then
      if rest.isEmpty then .ok (.expecting flags flag)
      else .ok (.whole (flags.addFlag flag (String.ofList rest)))
    else if set.attached.contains flag then
      .ok (.whole (flags.addFlag flag (String.ofList rest)))
    else .error (.unknown flag)

def readLong (set : FlagSet) (flags : Flags) (argument : String) : Except FlagError Cluster :=
  let letters := argument.toList.drop 2
  let name := String.ofList (letters.takeWhile (· ≠ '='))
  let value := (letters.dropWhile (· ≠ '=')).drop 1
  match set.long.lookup name with
  | none => .error (.unknownLong argument)
  | some flag =>
    if set.valued.contains flag && !letters.contains '=' then .ok (.expecting flags flag)
    else .ok (.whole (flags.addFlag flag (String.ofList value)))

def readFrom (set : FlagSet) (flags : Flags) : List String → Except FlagError Flags
  | [] => .ok flags
  | "--" :: rest => .ok { flags with operands := flags.operands ++ rest }
  | argument :: rest =>
    match argument.toList with
    | '-' :: first :: letters =>
      match if first = '-' then set.readLong flags argument
        else set.readCluster flags (first :: letters) with
      | .error cause => .error cause
      | .ok (.whole flags) => readFrom set flags rest
      | .ok (.expecting flags flag) =>
        match rest with
        | [] => .error (.missingValue flag)
        | value :: others => readFrom set (flags.addFlag flag value) others
    | _ =>
      if set.strict then .ok { flags with operands := flags.operands ++ argument :: rest }
      else readFrom set (flags.addOperand argument) rest

def read (set : FlagSet) (args : List String) : Except FlagError Flags := readFrom set {} args

end FlagSet

def report (call : Call) (text : String) : Program Unit :=
  Program.complain (call.name ++ ": " ++ text)

def fail (call : Call) (code : UInt8) (text : String) : Program UInt8 := do
  report call text
  return code

/-- Reports a wrong use of a tool, with the place to read more, and ends it. -/
def misuse (call : Call) (code : UInt8) (text : String) : Program UInt8 := do
  report call text
  Program.complain ("Try '" ++ call.name ++ " --help' for more information.")
  return code

/-- Why a tool does not run: what is wrong, and whether there is more to read about it. -/
structure Refusal where
  text : String
  withHelp : Bool := false

def refuseFor (call : Call) (code : UInt8) (refusal : Refusal) : Program UInt8 :=
  if refusal.withHelp then misuse call code refusal.text else fail call code refusal.text

def withFlags (set : FlagSet) (code : UInt8) (body : Call → Flags → Program UInt8) : Tool :=
  fun call =>
    match set.read call.args with
    | .ok flags => body call flags
    | .error cause => misuse call code cause.message

end PipeShell.Machine.Tool
