import PipeShell.Token

/-!
Pipelines: one or more commands, each a name with its arguments. A token list is a pipeline when its
pipes separate non-empty groups of words and there are not more groups than the limit allows.
-/
namespace PipeShell

structure Command where
  name : String
  args : List String
  deriving DecidableEq, Repr

/-- Commands joined by pipes; the first one always exists. -/
structure Pipeline where
  first : Command
  rest : List Command
  deriving DecidableEq, Repr

namespace Pipeline

def commands (p : Pipeline) : List Command := p.first :: p.rest

def length (p : Pipeline) : Nat := p.commands.length

def isSingle (p : Pipeline) : Bool := p.rest.isEmpty

theorem length_pos (p : Pipeline) : 0 < p.length := by simp [length, commands]

end Pipeline

inductive ParseError where
  | unterminatedQuote (cause : UnterminatedQuote)
  | noCommands
  | tooManyCommands (limit : Nat)
  /-- The command at this position, counted from 1, has no words. -/
  | emptyCommand (position : Nat)
  deriving DecidableEq, Repr

def ParseError.message : ParseError → String
  | .unterminatedQuote cause =>
    "unterminated " ++ cause.quote.toString ++ " quote starting at offset " ++ toString cause.offset
  | .noCommands => "no commands provided"
  | .tooManyCommands limit => "piping limited to " ++ toString limit ++ " commands"
  | .emptyCommand position =>
    "empty command at position " ++ toString position ++ " of the pipeline"

namespace Pipeline

def addToken (token : Token) (groups : List (List String)) : List (List String) :=
  match token, groups with
  | .pipe, _ => [] :: groups
  | .word text, [] => [[text]]
  | .word text, group :: others => (text :: group) :: others

/-- The runs of words before, between and after the pipes. -/
def groups (tokens : List Token) : List (List String) := tokens.foldr addToken [[]]

/-- The commands of the groups; `position` is that of the first of them. -/
def commandsOf (position : Nat) : List (List String) → Except ParseError (List Command)
  | [] => .ok []
  | [] :: _ => .error (.emptyCommand position)
  | (name :: args) :: rest => (commandsOf (position + 1) rest).map (⟨name, args⟩ :: ·)

def ofTokens (limit : Nat) (tokens : List Token) : Except ParseError Pipeline :=
  if tokens.isEmpty then .error .noCommands
  else if (groups tokens).length > limit then .error (.tooManyCommands limit)
  else match commandsOf 1 (groups tokens) with
    | .error cause => .error cause
    | .ok [] => .error .noCommands
    | .ok (first :: rest) => .ok ⟨first, rest⟩

/-- Reads a line; an open quote is reported before anything else. -/
def ofLine (limit : Nat) (line : String) : Except ParseError Pipeline :=
  match Token.ofLine line with
  | .error cause => .error (.unterminatedQuote cause)
  | .ok tokens => ofTokens limit tokens

/-- One line of a dump: the position, the name, and the arguments in brackets if there are any. -/
def dumpCommand (position : Nat) (command : Command) : String :=
  let arguments :=
    if command.args.isEmpty then "" else " [" ++ String.intercalate " " command.args ++ "]"
  "\n<" ++ toString position ++ "> " ++ command.name ++ arguments

def dumpFrom (position : Nat) : List Command → String
  | [] => ""
  | command :: rest => dumpCommand position command ++ dumpFrom (position + 1) rest

/-- The diagnostic text of a pipeline, without a newline at its end. -/
def dump (p : Pipeline) : String :=
  "PARSED COMMAND LINE - TOTAL COMMANDS " ++ toString p.length ++ dumpFrom 1 p.commands

end Pipeline

end PipeShell
