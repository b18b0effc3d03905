import PipeShell.OsError
import PipeShell.Text.Cluster

/-!
Where a shell's lines come from. Both sources cut the input after each newline and read every piece
as UTF-8; they differ in what they strip from a piece. A source is the list of its answers: a line
each time it is asked, a fault where the bytes are no text, and the end of input after the last.

The answers are those of the whole input, so the processes that the shell runs are taken to leave
the input of the shell alone, although the first stage of a pipeline may inherit it.
-/
namespace PipeShell.LineSource

/-- The answers of a source, in the order in which it gives them; it ends after a fault. -/
abbrev Answers := List (Except Fault String)

/-- Puts one byte in front of the pieces after it. A newline ends the piece that it is in. -/
def addByte (byte : UInt8) (pieces : List (List UInt8)) : List (List UInt8) :=
  if byte = 10 then [byte] :: pieces
  else match pieces with
    | [] => [[byte]]
    | piece :: others => (byte :: piece) :: others

/-- The input cut after each newline; the last piece may lack one, and none is empty. -/
def pieces (input : ByteArray) : List (List UInt8) := input.data.toList.foldr addByte []

/-- Reads the pieces as text and cleans each, up to the first that is no text. -/
def answers (clean : String → String) : List (List UInt8) → Answers
  | [] => []
  | piece :: rest =>
    match String.fromUTF8? ⟨piece.toArray⟩ with
    | none => [.error .notText]
    | some text => .ok (clean text) :: answers clean rest

/-- The line without the newlines and carriage returns at its end. -/
def stripTerminators (line : String) : String :=
  String.ofList (line.toList.reverse.dropWhile fun c => c = '\n' || c = '\r').reverse

def ofScript (input : ByteArray) : Answers := answers stripTerminators (pieces input)

/-- The line without its newline and without one carriage return directly before that. -/
def stripNewline (line : String) : String :=
  match line.toList.reverse with
  | '\n' :: '\r' :: rest => String.ofList rest.reverse
  | '\n' :: rest => String.ofList rest.reverse
  | _ => line

/-- The lines a line editor gives when its input is no terminal: backspaces are carried out. -/
def ofTyping (input : ByteArray) : Answers :=
  answers (fun line => Text.applyBackspaces (stripNewline line)) (pieces input)

end PipeShell.LineSource
