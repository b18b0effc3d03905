/-!
Scripts as trees: words with what they expand to, redirections, and commands.
-/
namespace PipeShell.Machine.Script

/-- What is done with the value of a parameter before it is used. Where a form asks whether the
parameter is set, `orEmpty` makes an empty value count as none. -/
inductive ParameterForm where
  | plain
  | length
  | orElse (orEmpty : Bool)
  | orAssign (orEmpty : Bool)
  | instead (orEmpty : Bool)
  | orFail (orEmpty : Bool)
  | cutStart (longest : Bool)
  | cutEnd (longest : Bool)
  deriving DecidableEq, Repr

inductive RedirectionKind where
  | input
  | output
  | append
  /-- To where another stream goes now. -/
  | duplicate
  /-- From the lines that follow in the script; `trimmed` drops the tabs in front of them. -/
  | document (trimmed : Bool)
  deriving DecidableEq, Repr

mutual

/-- A part of a word. Only unquoted results of expansions are split into fields. -/
inductive Piece where
  | text (value : String) (quoted : Bool)
  | parameter (name : String) (form : ParameterForm) (word : List Piece) (quoted : Bool)
  /-- The output of a script. -/
  | output (script : Statement) (quoted : Bool)
  | arithmetic (expression : List Piece) (quoted : Bool)

inductive Redirection where
  | mk (stream : Nat) (kind : RedirectionKind) (target : List Piece)

inductive Statement where
  | empty
  | simple (line : Nat) (assignments : List (String × List Piece)) (words : List (List Piece))
      (redirections : List Redirection)
  | piped (stages : List Statement)
  | negated (script : Statement)
  | sequence (first second : Statement)
  | both (first second : Statement)
  | either (first second : Statement)
  | background (script : Statement)
  | group (body : Statement) (redirections : List Redirection)
  | subshell (body : Statement) (redirections : List Redirection)
  | choice (condition yes no : Statement) (redirections : List Redirection)
  | loop (whileTrue : Bool) (condition body : Statement) (redirections : List Redirection)
  | each (name : String) (words : Option (List (List Piece))) (body : Statement)
      (redirections : List Redirection)
  | select (word : List Piece) (branches : List (List (List Piece) × Statement))
      (redirections : List Redirection)
  | define (name : String) (body : Statement)

end

abbrev Word := List Piece

def plainText : Word → Option String
  | [.text value false] => some value
  | _ => none

end PipeShell.Machine.Script
