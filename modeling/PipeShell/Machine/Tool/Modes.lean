import PipeShell.Machine.Tool.Flags

/-!
Modes of files, and the tool `chmod` that changes them.
-/
namespace PipeShell.Machine.Tool

/-- Does something for each operand; the code tells whether one of them failed. -/
def forEach (action : String → Program UInt8) : List String → Program UInt8
  | [] => return 0
  | name :: rest => do
    let code ← action name
    let others ← forEach action rest
    return if others = 0 then code else others

def modeMask : Nat := 0o022

def masked (mode : Nat) : Nat := mode &&& (0o777 ^^^ modeMask)

def classBits : Char → Nat
  | 'u' => 0o700
  | 'g' => 0o070
  | 'o' => 0o007
  | 'a' => 0o777
  | _ => 0

def rightBits : Char → Nat
  | 'r' => 0o444
  | 'w' => 0o222
  | 'x' => 0o111
  | _ => 0

def modeStep (mode : Nat) (text : String) : Option Nat :=
  let who := text.toList.takeWhile fun c => classBits c ≠ 0
  let users := if who.isEmpty then 0o777 else who.foldl (fun bits c => bits ||| classBits c) 0
  match text.toList.drop who.length with
  | sign :: rights =>
    if !rights.all (fun c => rightBits c ≠ 0 || c = 'X') then none
    else
      let asked := (rights.foldl (fun bits c => bits ||| rightBits c) 0) &&& users
      let bits := if who.isEmpty then masked asked ||| (asked &&& 0o111) else asked
      match sign with
      | '+' => some (mode ||| bits)
      | '-' => some (mode &&& (0o7777 ^^^ bits))
      | '=' => some ((mode &&& (0o7777 ^^^ users)) ||| bits)
      | _ => none
  | [] => none

def modeLimit : Nat := 0o7777

/-- The mode that a text asks for, given the old one: octal digits, or changes with commas. -/
def modeOf? (text : String) (old : Nat) : Option Nat :=
  if !text.isEmpty && text.all fun c => '0' ≤ c && c ≤ '7' then
    let mode := text.foldl (fun n c => n * 8 + (c.toNat - 48)) 0
    if mode ≤ modeLimit then some mode else none
  else (Text.fields ',' text).foldlM modeStep old

/-- The letters for the rights of one class of users. A special bit is shown in place of the last
one, by a letter in capitals if the right itself is not given. -/
def rightsText (bits : Nat) (special : Option Char) : String :=
  let letter (bit : Nat) (c : Char) : Char := if bits &&& bit ≠ 0 then c else '-'
  let last := match special with
    | none => letter 1 'x'
    | some c => if bits &&& 1 ≠ 0 then c else c.toUpper
  String.ofList [letter 4 'r', letter 2 'w', last]

def modeText (mode : Nat) : String :=
  let special (bit : Nat) (c : Char) : Option Char := if mode &&& bit ≠ 0 then some c else none
  rightsText (mode >>> 6) (special 0o4000 's') ++ rightsText (mode >>> 3) (special 0o2000 's') ++
    rightsText mode (special 0o1000 't')

def modeShown (mode : Nat) : String :=
  Bytes.padZeros 4 (Bytes.digits 8 mode) ++ " (" ++ modeText mode ++ ")"

def modeReport (name : String) (old new : Nat) : String :=
  "mode of " ++ asWord name ++ (if old = new then " retained as " ++ modeShown old
    else " changed from " ++ modeShown old ++ " to " ++ modeShown new) ++ "\n"

def chmodOne (call : Call) (flags : List String) (mode name : String) : Program UInt8 := do
  let before := (← Program.tree).node call.directory name
  match ← Program.change (FileTree.setMode call.directory name fun old =>
      (modeOf? mode old).getD old) with
  | .error cause => fail call 1 ("cannot access " ++ asWord name ++ ": " ++ cause.text)
  | .ok () =>
    match before with
    | .ok (.file old _) =>
      let new := (modeOf? mode old).getD old
      if flags.contains "-v" || (flags.contains "-c" && old ≠ new) then
        Program.put (modeReport name old new)
      return 0
    | _ => return 0

def chmod : Tool := fun call => do
  let flags := call.args.takeWhile fun arg => ["-R", "-v", "-f", "-c"].contains arg
  match call.args.drop flags.length with
  | [] => misuse call 1 "missing operand"
  | [only] => misuse call 1 ("missing operand after " ++ quoted only)
  | mode :: files =>
    if (modeOf? mode 0).isNone then misuse call 1 ("invalid mode: " ++ quoted mode)
    else forEach (chmodOne call flags mode) files

end PipeShell.Machine.Tool
