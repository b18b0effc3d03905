import PipeShell.Machine.Tool.Listing

/-!
Tools that put something out without reading: `true`, `false`, `yes`, `basename` and `dirname`.
-/
namespace PipeShell.Machine.Tool

def succeed : Tool := fun _ => return 0

def refuse : Tool := fun _ => return 1

def yesSize : Nat := 8192

def yes : Tool := fun call => do
  let words := if call.args.head? = some "--" then call.args.drop 1 else call.args
  let text := if words.isEmpty then "y" else String.intercalate " " words
  let line := text.toUTF8.push Bytes.newline
  let block := Bytes.concat (List.replicate (yesSize / line.size + 1) line)
  Program.iterate (fun (_ : Unit) => do
    Program.emit .out block
    return .inl ()) Program.loopLimit ()

/-! ### Paths -/

def withoutSlashes (path : String) : String :=
  let kept := (path.toList.reverse.dropWhile (· = '/')).reverse
  if kept.isEmpty then (if path.isEmpty then "" else "/") else String.ofList kept

def baseOf (path ending : String) : String :=
  let name := ((Text.fields '/' (withoutSlashes path)).getLast?).getD ""
  let name := if withoutSlashes path = "/" then "/" else name
  if !ending.isEmpty && name ≠ ending && name.endsWith ending then
    String.ofList (name.toList.take (name.length - ending.length))
  else name

def directoryOf (path : String) : String :=
  let path := withoutSlashes path
  if path = "/" then "/"
  else
    let kept := (path.toList.reverse.dropWhile (· ≠ '/')).reverse
    if kept.isEmpty then "." else withoutSlashes (String.ofList kept)

def basename : Tool := withFlags { plain := ['a', 'z'], valued := ['s'], strict := true } 1
  fun call flags => do
    match flags.operands with
    | [] => misuse call 1 "missing operand"
    | names =>
      if flags.has 'a' || flags.has 's' then
        Program.put (listing (names.map fun name => baseOf name ((flags.value? 's').getD "")))
        return 0
      else match names with
        | [name] => do
          Program.put (baseOf name "" ++ "\n")
          return 0
        | [name, ending] => do
          Program.put (baseOf name ending ++ "\n")
          return 0
        | _ => misuse call 1 ("extra operand " ++ quoted (names.getD 2 ""))

def dirname : Tool := withFlags { plain := ['z'], strict := true } 1 fun call flags => do
  if flags.operands.isEmpty then misuse call 1 "missing operand"
  else do
    Program.put (listing (flags.operands.map directoryOf))
    return 0

end PipeShell.Machine.Tool
