import PipeShell.Builtin.Kind
import PipeShell.Host
import PipeShell.Text.Field

/-!
What a command name refers to: a built-in, a file, or nothing. A name that is one plain component is
searched for on the search path, and the first runnable file wins; any other name is a path that
only has to exist.
-/
namespace PipeShell

inductive Target where
  | builtin (kind : Builtin)
  | external (path : String)
  | unknown
  deriving DecidableEq, Repr

namespace Lookup

inductive Component where
  | root
  | here
  | parent
  | entry (name : String)
  deriving DecidableEq, Repr

def Component.ofField : String → Component
  | "." => .here
  | ".." => .parent
  | name => .entry name

def Component.text : Component → String
  | .root => "/"
  | .here => "."
  | .parent => ".."
  | .entry name => name

/-- The components of a path. Empty parts count for nothing, and neither does `.` except as the
first part of a relative path. -/
def components (path : String) : List Component :=
  let fields := (Text.fields '/' path).map Component.ofField
  match fields with
  | [] => []
  | .entry "" :: rest =>
    if path.isEmpty then [] else .root :: rest.filter fun c => c ≠ .here && c ≠ .entry ""
  | first :: rest => first :: rest.filter fun c => c ≠ .here && c ≠ .entry ""

/-- The directories of a search path; an empty one stands for the working directory. -/
def directories (searchPath : String) : List String := Text.fields ':' searchPath

def join (directory name : String) : String :=
  if directory.isEmpty then name
  else if directory.endsWith "/" then directory ++ name
  else directory ++ "/" ++ name

variable {σ : Type}

/-- The first runnable file of this name in the directories of the search path. -/
def searchFor (system : System σ) (world : σ) (searchPath name : String) : Option String :=
  ((directories searchPath).map (join · name)).find? fun candidate =>
    (system.fileInfo world candidate).any FileInfo.runnable

def find? (system : System σ) (world : σ) (searchPath name : String) : Option String :=
  match components name with
  | [] => none
  | [.parent] => searchFor system world searchPath Component.parent.text
  | [.entry entry] => searchFor system world searchPath entry
  | _ => if (system.fileInfo world name).isSome then some name else none

/-- What a command name refers to: a built-in before any file. -/
def target (system : System σ) (world : σ) (searchPath name : String) : Target :=
  match Builtin.ofName? name with
  | some kind => .builtin kind
  | none =>
    match find? system world searchPath name with
    | some path => .external path
    | none => .unknown

def defaultSearchPath : String := "/usr/local/bin:/usr/bin:/bin"

def searchPathOf (system : System σ) (world : σ) : String :=
  (system.searchPath world).getD defaultSearchPath

end Lookup

end PipeShell
