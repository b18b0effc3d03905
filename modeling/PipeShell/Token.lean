import PipeShell.Text.Blank

/-!
The tokens of a command line: words and pipes. Quotes of either kind join their content to the word
around them, there is no escape character, and a quote that is never closed is the only error.
-/
namespace PipeShell

inductive Token where
  | word (text : String)
  | pipe
  deriving DecidableEq, Repr

/-- A quote character that opens a span without an end, with its offset in bytes of UTF-8. -/
structure UnterminatedQuote where
  quote : Char
  offset : Nat
  deriving DecidableEq, Repr

namespace Token

def isQuote (c : Char) : Bool := c = '"' || c = '\''

/-- Where a scan stands: outside any word, in a word, or in a quoted span of a word. -/
inductive Mode where
  | between
  | word (text : String)
  | quoted (quote : Char) (opened : Nat) (text : String)
  deriving DecidableEq, Repr

/-- A scan of a line from the left: the finished tokens, the word being read, the bytes read. -/
structure Scan where
  tokens : Array Token := #[]
  mode : Mode := .between
  offset : Nat := 0
  deriving DecidableEq, Repr

def Scan.extend (scan : Scan) (text : String) (c : Char) : Scan :=
  if isQuote c then { scan with mode := .quoted c scan.offset text }
  else { scan with mode := .word (text.push c) }

/-- The scan after one more character. A word ends at a blank or a pipe outside quotes; it may be
empty, when it holds quoted spans only. -/
def Scan.step (scan : Scan) (c : Char) : Scan :=
  let moved : Scan := match scan.mode with
    | .between =>
      if Text.isBlank c then scan
      else if c = '|' then { scan with tokens := scan.tokens.push .pipe }
      else scan.extend "" c
    | .word text =>
      if Text.isBlank c then { scan with tokens := scan.tokens.push (.word text), mode := .between }
      else if c = '|' then
        { scan with tokens := (scan.tokens.push (.word text)).push .pipe, mode := .between }
      else scan.extend text c
    | .quoted quote opened text =>
      if c = quote then { scan with mode := .word text }
      else { scan with mode := .quoted quote opened (text.push c) }
  { moved with offset := scan.offset + c.utf8Size }

def Scan.finish (scan : Scan) : Except UnterminatedQuote (List Token) :=
  match scan.mode with
  | .between => .ok scan.tokens.toList
  | .word text => .ok (scan.tokens.push (.word text)).toList
  | .quoted quote opened _ => .error ⟨quote, opened⟩

def ofLine (line : String) : Except UnterminatedQuote (List Token) :=
  (line.toList.foldl Scan.step {}).finish

end Token

end PipeShell
