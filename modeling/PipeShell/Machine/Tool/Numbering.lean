import PipeShell.Machine.Tool.Pattern

/-!
The tool `nl`: lines with their numbers.
-/
namespace PipeShell.Machine.Tool

inductive Numbered where
  | allLines
  | filledLines
  | noLines
  | linesWith (pattern : Pattern)

def Numbered.holds (which : Numbered) (line : ByteArray) : Bool :=
  match which with
  | .allLines => true
  | .filledLines => !line.isEmpty
  | .noLines => false
  | .linesWith pattern => (pattern.find? line.data 0).isSome

def Numbered.read (part text : String) : Except Refusal Numbered :=
  match text.toList with
  | 'a' :: _ => .ok .allLines
  | 't' :: _ => .ok .filledLines
  | 'n' :: _ => .ok .noLines
  | 'p' :: _ =>
    match Pattern.ofBytes? ⟨false, false⟩ ((Bytes.toList text.toUTF8).drop 1) with
    | some pattern => .ok (.linesWith pattern)
    | none => .error { text := "Invalid regular expression" }
  | _ => .error
    { text := "invalid " ++ part ++ " numbering style: " ++ quoted text, withHelp := true }

structure NumberStyle where
  which : Numbered := .filledLines
  width : Nat := 6
  separator : String := "\t"
  start : Int := 1
  increment : Int := 1
  /-- Whether numbers stand at the left of their column, or have zeros in front. -/
  atLeft : Bool := false
  zeros : Bool := false

def NumberStyle.number (style : NumberStyle) (number : Int) : String :=
  let text := toString number
  if style.atLeft then Bytes.padRight style.width text
  else if style.zeros then
    (if number < 0 then "-" else "") ++
      Bytes.padZeros (if number < 0 then style.width - 1 else style.width) (toString number.natAbs)
  else Bytes.padLeft style.width text

def NumberStyle.line (style : NumberStyle) (number : Int) (line : ByteArray) : Int × ByteArray :=
  let text := Bytes.chomp line
  if style.which.holds text then
    (number + style.increment,
      (style.number number ++ style.separator).toUTF8 ++ text ++ "\n".toUTF8)
  else
    let gap := String.ofList (List.replicate (style.width + style.separator.length) ' ')
    (number, gap.toUTF8 ++ text ++ "\n".toUTF8)

def NumberStyle.set (style : NumberStyle) (given : Char × String) : Except Refusal NumberStyle := do
  let text := given.2
  let number (meaning : String) : Except Refusal Int :=
    match Bytes.intOf? text with
    | some n => .ok n
    | none => .error { text := "invalid " ++ meaning ++ ": " ++ quoted text }
  match given.1 with
  | 'b' => return { style with which := ← Numbered.read "body" text }
  | 'h' => (Numbered.read "header" text).map fun _ => style
  | 'f' => (Numbered.read "footer" text).map fun _ => style
  | 's' => return { style with separator := text }
  | 'v' => return { style with start := ← number "starting line number" }
  | 'i' => return { style with increment := ← number "line number increment" }
  | 'l' => (number "line number of blank lines").map fun _ => style
  | 'w' =>
    let width ← number "line number field width"
    if width < 1 then
      throw { text := "invalid line number field width: " ++ quoted text ++
        ": Numerical result out of range" }
    else return { style with width := width.toNat }
  | 'n' =>
    match text with
    | "ln" => return { style with atLeft := true, zeros := false }
    | "rn" => return { style with atLeft := false, zeros := false }
    | "rz" => return { style with atLeft := false, zeros := true }
    | _ => throw { text := "invalid line numbering format: " ++ quoted text, withHelp := true }
  | _ => return style

def nlFlags : FlagSet where
  plain := ['p']
  valued := "bwsvifdhln".toList
  long := [("body-numbering", 'b'), ("number-width", 'w'), ("number-separator", 's'),
    ("starting-line-number", 'v'), ("line-increment", 'i'), ("number-format", 'n')]

def nl : Tool := withFlags nlFlags 1 fun call flags =>
  match flags.given.foldlM NumberStyle.set {} with
  | .error refusal => refuseFor call 1 refusal
  | .ok style => do
    let filter : LineFilter Int := { line := style.line }
    return (← filter.run call {} style.start flags.operands).2

end PipeShell.Machine.Tool
