/-!
The commands that the shell carries out itself, and their names.
-/
namespace PipeShell

/-- A command that the shell carries out itself. -/
inductive Builtin where
  | exit
  | cd
  | rc
  | dragon
  deriving DecidableEq, Repr

namespace Builtin

def all : List Builtin := [.exit, .cd, .rc, .dragon]

def name : Builtin → String
  | .exit => "exit"
  | .cd => "cd"
  | .rc => "rc"
  | .dragon => "dragon"

def ofName? (name : String) : Option Builtin := all.find? fun builtin => builtin.name = name

end Builtin

end PipeShell
