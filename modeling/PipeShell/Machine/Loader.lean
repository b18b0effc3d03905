import PipeShell.Machine.Bytes
import PipeShell.Machine.Program

/-!
Starting the program in a file. A file holds the machine code of a tool, or it names its interpreter
in a first line that begins with `#!`; that interpreter is then started with the path of the file in
front of the arguments.
-/
namespace PipeShell.Machine.Loader

def headerSize : Nat := 256

def interpreterLimit : Nat := 5

def argumentLimit : Nat := 131071

/-- The most bytes in all arguments, with one byte and one pointer more for each. -/
def argumentsLimit : Nat := 2 * 1024 * 1024

def argumentsFit (args : List String) : Bool :=
  args.all (fun arg => arg.utf8ByteSize ≤ argumentLimit) &&
    args.foldl (fun total arg => total + arg.utf8ByteSize + 9) 0 ≤ argumentsLimit

/-- A program that interprets a script, with its own first argument if the script gives one. -/
structure Interpreter where
  path : String
  option : Option String
  deriving DecidableEq, Repr

def endsWord (byte : UInt8) : Bool := Bytes.isGap byte || byte = 0

def wordOf (bytes : List UInt8) : List UInt8 := bytes.takeWhile fun byte => !endsWord byte

def trimmed (bytes : List UInt8) : List UInt8 :=
  ((bytes.dropWhile Bytes.isGap).reverse.dropWhile Bytes.isGap).reverse

/-- Text of bytes; bytes that are no text name no file. -/
def textOf (bytes : List UInt8) : String := (String.fromUTF8? ⟨bytes.toArray⟩).getD "\x00"

/-- The bytes after `#!` that may name an interpreter: those of the first line, without the blanks
around them. Without a newline there must be an end of the name within the header. -/
def namingPart (header : List UInt8) : Option (List UInt8) :=
  if header.contains 10 then some (trimmed (header.takeWhile (· ≠ 10)))
  else if header.length + 2 < headerSize || (header.dropWhile Bytes.isGap).any endsWord then
    some (trimmed header)
  else none

def interpreterOf? (data : ByteArray) : Option Interpreter :=
  match (data.extract 0 headerSize).data.toList with
  | 35 :: 33 :: header =>
    match namingPart header with
    | none => none
    | some part =>
      let path := wordOf part
      let rest := (part.drop path.length).takeWhile (· ≠ 0) |>.dropWhile Bytes.isGap
      if path.isEmpty then none
      else some ⟨textOf path, if rest.isEmpty then none else some (textOf rest)⟩
  | _ => none

/-- The tool that runs for a call of a path, and the call it gets. The file must be regular with an
execute bit, and its format must be known. -/
def toolFor (tree : FileTree) : Nat → String → Call → Except OsError (String × Call)
  | 0, _, _ => .error .tooManyLinks
  | depth + 1, path, call =>
    match tree.node call.directory path with
    | .error cause => .error cause
    | .ok (.file mode content) =>
      if mode &&& 0o111 = 0 then .error .accessDenied
      else if !argumentsFit (path :: call.name :: call.args) then .error .argumentsTooLong
      else match content with
        | .tool name => .ok (name, call)
        | .bytes data =>
          match interpreterOf? data with
          | none => .error .execFormat
          | some interpreter =>
            toolFor tree depth interpreter.path { call with
              name := interpreter.path
              args := interpreter.option.toList ++ path :: call.args }
    | .ok _ => .error .accessDenied

abbrev Tools := String → Launcher → Tool

def launcher (tools : Tools) : Nat → Launcher
  | 0 => fun _ _ _ => .error .tryAgain
  | depth + 1 => fun path call tree =>
    match toolFor tree (interpreterLimit + 1) path call with
    | .error cause => .error cause
    | .ok (name, told) => .ok (tools name (launcher tools depth) told)

def standardSearchPath : String := "/bin:/usr/bin"

def isPassedOver : OsError → Bool
  | .noSuchEntry | .accessDenied | .notDirectory => true
  | _ => false

/-- Tries the candidates in turn. Only errors that say "not this one" are passed over; a refused
access is remembered. -/
def launchFirst (launch : Launcher) (call : Call) (tree : FileTree) (refused : Bool)
    (last : OsError) : List String → Except OsError (Program UInt8)
  | [] => .error (if refused then .accessDenied else last)
  | path :: rest =>
    match launch path call tree with
    | .ok program => .ok program
    | .error cause =>
      if isPassedOver cause then
        launchFirst launch call tree (refused || cause = .accessDenied) cause rest
      else .error cause

/-- Starts a program by a path, or by a name without a slash that is searched for. -/
def launchByName (launch : Launcher) (searchPath : Option String) : Launcher :=
  fun name call tree =>
    if name.contains '/' then launch name call tree
    else if name.isEmpty then .error .noSuchEntry
    else if name.utf8ByteSize > FileTree.nameLimit then .error .nameTooLong
    else
      let directories := Text.fields ':' (searchPath.getD standardSearchPath)
      launchFirst launch call tree false .noSuchEntry <| directories.map fun directory =>
        if directory.isEmpty then name else directory ++ "/" ++ name

end PipeShell.Machine.Loader
