import PipeShell.Machine.Script.Syntax

/-!
Reading scripts. A reader takes characters from the front of the text; where the text is no script
it gives up. Words are read with their quotes and expansions, and keywords count only where a
command can begin.
-/
namespace PipeShell.Machine.Script

abbrev Reader (α : Type) := List Char → Option (α × List Char)

def isNameStart (c : Char) : Bool := c.isAlpha || c = '_'

def isNameChar (c : Char) : Bool := c.isAlphanum || c = '_'

def isMeta (c : Char) : Bool :=
  c = ' ' || c = '\t' || c = '\n' || c = ';' || c = '&' || c = '|' || c = '<' || c = '>' ||
    c = '(' || c = ')'

def isSpecial (c : Char) : Bool :=
  c = '?' || c = '@' || c = '*' || c = '#' || c = '$' || c = '!' || c = '-'

def skipBlanks : List Char → List Char
  | ' ' :: rest | '\t' :: rest | '\\' :: '\n' :: rest => skipBlanks rest
  | '#' :: rest => rest.dropWhile (· ≠ '\n')
  | rest => rest

def skipLines : Nat → List Char → List Char
  | 0, text => text
  | fuel + 1, text =>
    match skipBlanks text with
    | '\n' :: rest => skipLines fuel rest
    | rest => rest

/-- Joins a character to a list of pieces that may begin with text of the same kind. -/
def addChar (c : Char) (quoted : Bool) : Word → Word
  | .text value same :: rest =>
    if same = quoted then .text (c.toString ++ value) quoted :: rest
    else .text c.toString quoted :: .text value same :: rest
  | rest => .text c.toString quoted :: rest

/-- The text up to a closing sign, and what follows that. Escaped signs do not close. -/
def upTo (closing : Char) : List Char → Option (List Char × List Char)
  | [] => none
  | '\\' :: c :: rest => (upTo closing rest).map fun found => ('\\' :: c :: found.1, found.2)
  | c :: rest =>
    if c = closing then some ([], rest)
    else (upTo closing rest).map fun found => (c :: found.1, found.2)

def upToArithmeticEnd (depth : Nat) : List Char → Option (List Char × List Char)
  | [] => none
  | ')' :: ')' :: rest =>
    match depth with
    | 0 => some ([], rest)
    | depth + 1 =>
      (upToArithmeticEnd depth (')' :: rest)).map fun found => (')' :: found.1, found.2)
  | '(' :: rest => (upToArithmeticEnd (depth + 1) rest).map fun found => ('(' :: found.1, found.2)
  | ')' :: rest => (upToArithmeticEnd (depth - 1) rest).map fun found => (')' :: found.1, found.2)
  | c :: rest => (upToArithmeticEnd depth rest).map fun found => (c :: found.1, found.2)
  termination_by text => text.length

/-- The script between back quotes, where an escape makes a back quote or a dollar sign plain. -/
def unescapeBackQuoted : List Char → List Char
  | '\\' :: c :: rest =>
    if c = '\x60' || c = '$' || c = '\\' then c :: unescapeBackQuoted rest
    else '\\' :: c :: unescapeBackQuoted rest
  | c :: rest => c :: unescapeBackQuoted rest
  | [] => []

def parameterForm : Reader ParameterForm
  | ':' :: '-' :: rest => some (.orElse true, rest)
  | '-' :: rest => some (.orElse false, rest)
  | ':' :: '=' :: rest => some (.orAssign true, rest)
  | '=' :: rest => some (.orAssign false, rest)
  | ':' :: '+' :: rest => some (.instead true, rest)
  | '+' :: rest => some (.instead false, rest)
  | ':' :: '?' :: rest => some (.orFail true, rest)
  | '?' :: rest => some (.orFail false, rest)
  | '#' :: '#' :: rest => some (.cutStart true, rest)
  | '#' :: rest => some (.cutStart false, rest)
  | '%' :: '%' :: rest => some (.cutEnd true, rest)
  | '%' :: rest => some (.cutEnd false, rest)
  | _ => none

def parameterName : Reader String
  | [] => none
  | c :: rest =>
    if isNameStart c then
      let more := rest.takeWhile isNameChar
      some (String.ofList (c :: more), rest.drop more.length)
    else if c.isDigit then
      let more := rest.takeWhile Char.isDigit
      some (String.ofList (c :: more), rest.drop more.length)
    else if isSpecial c then some (c.toString, rest)
    else none

def keywords : List String :=
  ["if", "then", "elif", "else", "fi", "while", "until", "do", "done", "for", "in", "case", "esac",
    "\x7b", "\x7d", "!"]

def inSequence (first second : Statement) : Statement :=
  match second with
  | .empty => first
  | _ => .sequence first second

/-- The keyword at the front of the text, if there is one, and what follows it. -/
def keyword? (text : List Char) : Option (String × List Char) :=
  let word := text.takeWhile fun c => !isMeta c
  let name := String.ofList word
  if keywords.contains name then some (name, text.drop word.length) else none

def expect (name : String) (text : List Char) : Option (List Char) :=
  match keyword? (skipLines (text.length + 1) text) with
  | some (found, rest) => if found = name then some rest else none
  | none => none

def redirectionSign (text : List Char) : Option (Nat × RedirectionKind × List Char) :=
  let digits := text.takeWhile Char.isDigit
  let stream := digits.foldl (fun n c => n * 10 + (c.toNat - 48)) 0
  let named (usual : Nat) : Nat := if digits.isEmpty then usual else stream
  match text.drop digits.length with
  | '<' :: '<' :: '-' :: rest => some (named 0, .document true, rest)
  | '<' :: '<' :: rest => some (named 0, .document false, rest)
  | '<' :: '&' :: rest => some (named 0, .duplicate, rest)
  | '<' :: rest => some (named 0, .input, rest)
  | '>' :: '>' :: rest => some (named 1, .append, rest)
  | '>' :: '&' :: rest => some (named 1, .duplicate, rest)
  | '>' :: '|' :: rest => some (named 1, .output, rest)
  | '>' :: rest => some (named 1, .output, rest)
  | _ => none

/-- The lines up to one that holds only the delimiter, and what follows that line. -/
def documentLines (trimmed : Bool) (delimiter : List Char) :
    Nat → List Char → List Char × List Char
  | 0, text => ([], text)
  | fuel + 1, text =>
    let start := if trimmed then text.dropWhile (· = '\t') else text
    let line := start.takeWhile (· ≠ '\n')
    let rest := start.drop line.length
    if line = delimiter || start.isEmpty then ([], rest.drop 1)
    else
      let others := documentLines trimmed delimiter fuel (rest.drop 1)
      (line ++ rest.take 1 ++ others.1, others.2)

def takeDocument (trimmed : Bool) (delimiter : List Char) (text : List Char) :
    List Char × List Char :=
  let current := text.takeWhile (· ≠ '\n')
  let document := documentLines trimmed delimiter (text.length + 1)
    ((text.drop current.length).drop 1)
  (document.1, current ++ '\n' :: document.2)

def assignment? (word : Word) : Option (String × Word) :=
  match word with
  | .text value false :: rest =>
    let name := value.toList.takeWhile isNameChar
    match value.toList.drop name.length with
    | '=' :: after =>
      if name.head?.any isNameStart then
        some (String.ofList name,
          if after.isEmpty then rest else .text (String.ofList after) false :: rest)
      else none
    | _ => none
  | _ => none

/-- The text of a word with its quotes gone, as the delimiter of a document is read. -/
def delimiterOf (word : Word) : List Char × Bool :=
  word.foldr (fun piece found =>
    match piece with
    | .text value quoted => (value.toList ++ found.1, quoted || found.2)
    | _ => found) ([], false)

mutual

/-- Reads an expansion behind a dollar sign. A sign that begins none is plain. -/
def readDollar : Nat → Bool → Reader Piece
  | 0, _, _ => none
  | fuel + 1, quoted, text =>
    match text with
    | '(' :: '(' :: rest =>
      match upToArithmeticEnd 0 rest with
      | some (inner, after) =>
        (readQuoted fuel none inner).map fun found => (.arithmetic found.1 quoted, after)
      | none => none
    | '(' :: rest =>
      match readList fuel 0 rest with
      | none => none
      | some (script, after) =>
        match skipLines (after.length + 1) after with
        | ')' :: after => some (.output script quoted, after)
        | _ => none
    | '\x7b' :: '#' :: rest =>
      match parameterName rest with
      | some (name, '\x7d' :: after) => some (.parameter name .length [] quoted, after)
      | _ =>
        match rest with
        | '\x7d' :: after => some (.parameter "#" .plain [] quoted, after)
        | _ => none
    | '\x7b' :: rest =>
      match parameterName rest with
      | none => none
      | some (name, '\x7d' :: after) => some (.parameter name .plain [] quoted, after)
      | some (name, after) =>
        match parameterForm after with
        | none => none
        | some (form, after) =>
          match readBraced fuel quoted after with
          | none => none
          | some (word, after) => some (.parameter name form word quoted, after)
    | _ =>
      match text with
      | c :: rest =>
        if c.isDigit then some (.parameter c.toString .plain [] quoted, rest)
        else match parameterName text with
          | some (name, rest) => some (.parameter name .plain [] quoted, rest)
          | none => some (.text "$" quoted, text)
      | [] => some (.text "$" quoted, text)

def readBraced : Nat → Bool → Reader Word
  | 0, _, _ => none
  | fuel + 1, quoted, text =>
    match text with
    | [] => none
    | '\x7d' :: rest => some ([], rest)
    | '\\' :: c :: rest =>
      (readBraced fuel quoted rest).map fun found => (addChar c true found.1, found.2)
    | '\'' :: rest =>
      if quoted then
        (readBraced fuel quoted rest).map fun found => (addChar '\'' true found.1, found.2)
      else
        let inner := rest.takeWhile (· ≠ '\'')
        (readBraced fuel quoted (rest.drop (inner.length + 1))).map fun found =>
          (.text (String.ofList inner) true :: found.1, found.2)
    | '"' :: rest =>
      match readQuoted fuel (some '"') rest with
      | none => none
      | some (inner, after) =>
        (readBraced fuel quoted after).map fun found => (inner ++ found.1, found.2)
    | '$' :: rest =>
      match readDollar fuel quoted rest with
      | none => none
      | some (piece, after) =>
        (readBraced fuel quoted after).map fun found => (piece :: found.1, found.2)
    | c :: rest =>
      (readBraced fuel quoted rest).map fun found => (addChar c quoted found.1, found.2)

/-- Reads quoted text up to its closing sign, or to the end if there is none to come. -/
def readQuoted : Nat → Option Char → Reader Word
  | 0, _, _ => none
  | fuel + 1, closing, text =>
    match text with
    | [] => if closing.isNone then some ([], []) else none
    | '\\' :: '\n' :: rest => readQuoted fuel closing rest
    | '\\' :: c :: rest =>
      if c = '$' || c = '\x60' || c = '"' || c = '\\' then
        (readQuoted fuel closing rest).map fun found => (addChar c true found.1, found.2)
      else (readQuoted fuel closing rest).map fun found =>
        (addChar '\\' true (addChar c true found.1), found.2)
    | '$' :: rest =>
      match readDollar fuel true rest with
      | none => none
      | some (piece, after) =>
        (readQuoted fuel closing after).map fun found => (piece :: found.1, found.2)
    | '\x60' :: rest =>
      match upTo '\x60' rest with
      | none => none
      | some (inner, after) =>
        match readList fuel 0 (unescapeBackQuoted inner) with
        | some (script, []) =>
          (readQuoted fuel closing after).map fun found => (.output script true :: found.1, found.2)
        | _ => none
    | c :: rest =>
      if some c = closing then some ([], rest)
      else (readQuoted fuel closing rest).map fun found => (addChar c true found.1, found.2)

def readWord : Nat → Reader Word
  | 0, _ => none
  | fuel + 1, text =>
    match text with
    | [] => some ([], [])
    | '\\' :: '\n' :: rest => readWord fuel rest
    | '\\' :: c :: rest => (readWord fuel rest).map fun found => (addChar c true found.1, found.2)
    | '\'' :: rest =>
      let inner := rest.takeWhile (· ≠ '\'')
      match rest.drop inner.length with
      | _ :: after => (readWord fuel after).map fun found =>
          (.text (String.ofList inner) true :: found.1, found.2)
      | [] => none
    | '"' :: rest =>
      match readQuoted fuel (some '"') rest with
      | none => none
      | some (inner, after) => (readWord fuel after).map fun found =>
          ((if inner.isEmpty then [.text "" true] else inner) ++ found.1, found.2)
    | '$' :: rest =>
      match readDollar fuel false rest with
      | none => none
      | some (piece, after) => (readWord fuel after).map fun found => (piece :: found.1, found.2)
    | '\x60' :: rest =>
      match upTo '\x60' rest with
      | none => none
      | some (inner, after) =>
        match readList fuel 0 (unescapeBackQuoted inner) with
        | some (script, []) =>
          (readWord fuel after).map fun found => (.output script false :: found.1, found.2)
        | _ => none
    | c :: rest =>
      if isMeta c then some ([], text)
      else (readWord fuel rest).map fun found => (addChar c false found.1, found.2)

def readRedirection : Nat → List Char → Option (Option (Redirection × List Char))
  | 0, _ => none
  | fuel + 1, text =>
    match redirectionSign text with
    | none => some none
    | some (stream, kind, rest) =>
      match readWord fuel (skipBlanks rest) with
      | none => none
      | some (word, after) =>
        if word.isEmpty then none
        else match kind with
          | .document trimmed =>
            let delimiter := delimiterOf word
            let document := takeDocument trimmed delimiter.1 after
            if delimiter.2 then
              some (some (.mk stream kind [.text (String.ofList document.1) true], document.2))
            else
              match readQuoted fuel none document.1 with
              | none => none
              | some (body, _) => some (some (.mk stream kind body, document.2))
          | _ => some (some (.mk stream kind word, after))

def readRedirections : Nat → Reader (List Redirection)
  | 0, _ => none
  | fuel + 1, text =>
    match readRedirection fuel (skipBlanks text) with
    | none => none
    | some none => some ([], text)
    | some (some (redirection, rest)) =>
      (readRedirections fuel rest).map fun found => (redirection :: found.1, found.2)

def readWords : Nat → Reader (List Word)
  | 0, _ => none
  | fuel + 1, text =>
    match skipBlanks text with
    | [] => some ([], [])
    | c :: rest =>
      if isMeta c then some ([], c :: rest)
      else match readWord fuel (c :: rest) with
        | none => none
        | some (word, after) =>
          (readWords fuel after).map fun found => (word :: found.1, found.2)

/-- Reads a simple command: assignments, then words, with redirections anywhere between them. -/
def readSimple : Nat → Nat → List (String × Word) → List Word → List Redirection → Reader Statement
  | 0, _, _, _, _, _ => none
  | fuel + 1, line, assignments, words, redirections, text =>
    let text := skipBlanks text
    match readRedirection fuel text with
    | none => none
    | some (some (redirection, rest)) =>
      readSimple fuel line assignments words (redirections ++ [redirection]) rest
    | some none =>
      match text with
      | [] => some (.simple line assignments words redirections, [])
      | c :: _ =>
        if isMeta c then some (.simple line assignments words redirections, text)
        else match readWord fuel text with
          | none => none
          | some (word, rest) =>
            match assignment? word with
            | some assignment =>
              if words.isEmpty then
                readSimple fuel line (assignments ++ [assignment]) words redirections rest
              else readSimple fuel line assignments (words ++ [word]) redirections rest
            | none =>
              match plainText word, skipBlanks rest with
              | some name, '(' :: more =>
                if !words.isEmpty || !assignments.isEmpty then none
                else match skipBlanks more with
                  | ')' :: body =>
                    let start := skipLines (body.length + 1) body
                    (readCommand fuel (line - 1) start).map fun found =>
                      (.define name found.1, found.2)
                  | _ => none
              | _, _ => readSimple fuel line assignments (words ++ [word]) redirections rest

def readBranches : Nat → Nat → Reader (List (List Word × Statement))
  | 0, _, _ => none
  | fuel + 1, line, text =>
    let text := skipLines (text.length + 1) text
    match keyword? text with
    | some ("esac", rest) => some ([], rest)
    | _ =>
      let text := match text with
        | '(' :: rest => skipBlanks rest
        | _ => text
      match readPatterns fuel text with
      | none => none
      | some (patterns, rest) =>
        match readList fuel line rest with
        | none => none
        | some (body, rest) =>
          match skipLines (rest.length + 1) rest with
          | ';' :: ';' :: rest =>
            (readBranches fuel line rest).map fun found => ((patterns, body) :: found.1, found.2)
          | rest =>
            (expect "esac" rest).map fun rest => ([(patterns, body)], rest)

def readPatterns : Nat → Reader (List Word)
  | 0, _ => none
  | fuel + 1, text =>
    match readWord fuel (skipBlanks text) with
    | none => none
    | some (word, rest) =>
      match skipBlanks rest with
      | ')' :: rest => some ([word], rest)
      | '|' :: rest => (readPatterns fuel rest).map fun found => (word :: found.1, found.2)
      | _ => none

def readBody : Nat → Nat → Reader Statement
  | 0, _, _ => none
  | fuel + 1, line, text =>
    match expect "do" text with
    | none => none
    | some rest =>
      match readList fuel line rest with
      | none => none
      | some (body, rest) => (expect "done" rest).map fun rest => (body, rest)

/-- Reads what follows a condition and its keyword: a part, and then the other parts. -/
def readChoice : Nat → Nat → Reader Statement
  | 0, _, _ => none
  | fuel + 1, line, text =>
    match readList fuel line text with
    | none => none
    | some (condition, rest) =>
      match expect "then" rest with
      | none => none
      | some rest =>
        match readList fuel line rest with
        | none => none
        | some (yes, rest) =>
          match keyword? (skipLines (rest.length + 1) rest) with
          | some ("fi", rest) => some (.choice condition yes .empty [], rest)
          | some ("elif", rest) =>
            (readChoice fuel line rest).map fun found => (.choice condition yes found.1 [], found.2)
          | some ("else", rest) =>
            match readList fuel line rest with
            | none => none
            | some (no, rest) =>
              (expect "fi" rest).map fun rest => (.choice condition yes no [], rest)
          | _ => none

def readCommand : Nat → Nat → Reader Statement
  | 0, _, _ => none
  | fuel + 1, line, text =>
    let redirected (make : List Redirection → Statement) (rest : List Char) :
        Option (Statement × List Char) :=
      (readRedirections fuel rest).map fun found => (make found.1, found.2)
    match text with
    | '(' :: rest =>
      match readList fuel line rest with
      | none => none
      | some (body, rest) =>
        match skipLines (rest.length + 1) rest with
        | ')' :: rest => redirected (.subshell body) rest
        | _ => none
    | _ =>
      match keyword? text with
      | some ("\x7b", rest) =>
        match readList fuel line rest with
        | none => none
        | some (body, rest) => (expect "\x7d" rest).bind (redirected (.group body))
      | some ("if", rest) =>
        match readChoice fuel line rest with
        | some (.choice condition yes no _, rest) => redirected (.choice condition yes no) rest
        | _ => none
      | some ("while", rest) => readLoop fuel line true rest
      | some ("until", rest) => readLoop fuel line false rest
      | some ("for", rest) =>
        match parameterName (skipBlanks rest) with
        | none => none
        | some (name, rest) =>
          let given : Option (Option (List Word) × List Char) :=
            match keyword? (skipLines (rest.length + 1) rest) with
            | some ("in", rest) => (readWords fuel rest).map fun found => (some found.1, found.2)
            | _ => some (none, rest)
          match given with
          | none => none
          | some (words, rest) =>
            let rest := match skipBlanks rest with
              | ';' :: rest => rest
              | rest => rest
            match readBody fuel line rest with
            | none => none
            | some (body, rest) => redirected (.each name words body) rest
      | some ("case", rest) =>
        match readWord fuel (skipBlanks rest) with
        | none => none
        | some (word, rest) =>
          match (expect "in" rest).bind (readBranches fuel line) with
          | none => none
          | some (branches, rest) => redirected (.select word branches) rest
      | some _ => none
      | none =>
        match readSimple fuel (line + 1) [] [] [] text with
        | some (.simple _ [] [] [], _) => none
        | found => found

def readLoop : Nat → Nat → Bool → Reader Statement
  | 0, _, _, _ => none
  | fuel + 1, line, whileTrue, text =>
    match readList fuel line text with
    | none => none
    | some (condition, rest) =>
      match readBody fuel line rest with
      | none => none
      | some (body, rest) =>
        (readRedirections fuel rest).map fun found =>
          (.loop whileTrue condition body found.1, found.2)

def readStages : Nat → Nat → Reader (List Statement)
  | 0, _, _ => none
  | fuel + 1, line, text =>
    match readCommand fuel line (skipBlanks text) with
    | none => none
    | some (first, rest) =>
      match skipBlanks rest with
      | '|' :: '|' :: more => some ([first], '|' :: '|' :: more)
      | '|' :: more =>
        (readStages fuel line (skipLines (more.length + 1) more)).map fun found =>
          (first :: found.1, found.2)
      | rest => some ([first], rest)

def readPipeline : Nat → Nat → Reader Statement
  | 0, _, _ => none
  | fuel + 1, line, text =>
    match keyword? (skipBlanks text) with
    | some ("!", rest) => (readPipeline fuel line rest).map fun found => (.negated found.1, found.2)
    | _ =>
      (readStages fuel line text).map fun found =>
        (match found.1 with
          | [only] => only
          | stages => .piped stages, found.2)

def readAndOr : Nat → Nat → Statement → Reader Statement
  | 0, _, _, _ => none
  | fuel + 1, line, first, text =>
    match skipBlanks text with
    | '&' :: '&' :: rest =>
      match readPipeline fuel line (skipLines (rest.length + 1) rest) with
      | none => none
      | some (second, rest) => readAndOr fuel line (.both first second) rest
    | '|' :: '|' :: rest =>
      match readPipeline fuel line (skipLines (rest.length + 1) rest) with
      | none => none
      | some (second, rest) => readAndOr fuel line (.either first second) rest
    | rest => some (first, rest)

/-- Reads commands up to a sign or a keyword that ends them. The number of the line comes from the
newlines on the way. -/
def readList : Nat → Nat → Reader Statement
  | 0, _, _ => none
  | fuel + 1, line, text =>
    let start := skipLines (text.length + 1) text
    let line := line + (text.take (text.length - start.length)).count '\n'
    match start with
    | [] => some (.empty, [])
    | ')' :: rest => some (.empty, ')' :: rest)
    | ';' :: ';' :: rest => some (.empty, ';' :: ';' :: rest)
    | _ =>
      let ends := match keyword? start with
        | some (name, _) =>
          ["then", "elif", "else", "fi", "do", "done", "esac", "\x7d", "in"].contains name
        | none => false
      if ends then some (.empty, start)
      else match
          (readPipeline fuel line start).bind fun found =>
            readAndOr fuel line found.1 found.2 with
        | none => none
        | some (first, rest) =>
          let line := line + (start.take (start.length - rest.length)).count '\n'
          match skipBlanks rest with
          | ';' :: ';' :: more => some (first, ';' :: ';' :: more)
          | ';' :: more =>
            (readList fuel line more).map fun found => (inSequence first found.1, found.2)
          | '&' :: more =>
            (readList fuel line more).map fun found =>
              (inSequence (.background first) found.1, found.2)
          | '\n' :: more =>
            (readList fuel line ('\n' :: more)).map fun found => (inSequence first found.1, found.2)
          | rest => some (first, rest)

end

/-- A script that was read up to its end, or up to a place that is no script. -/
structure Parsed where
  commands : List Statement
  complete : Bool

def readAll : Nat → Nat → List Char → Parsed
  | 0, _, _ => ⟨[], false⟩
  | fuel + 1, line, text =>
    let start := skipLines (text.length + 1) text
    let line := line + (text.take (text.length - start.length)).count '\n'
    if start.isEmpty then ⟨[], true⟩
    else
      match readLine line start with
      | none => ⟨[], false⟩
      | some (script, rest) =>
        let passed := line + (start.take (start.length - rest.length)).count '\n'
        let others := readAll fuel passed rest
        ⟨script :: others.commands, others.complete⟩
where
  /-- Reads the commands of one line. -/
  readLine (line : Nat) (text : List Char) : Option (Statement × List Char) :=
    go (text.length + 1) line text
  go : Nat → Nat → List Char → Option (Statement × List Char)
    | 0, _, _ => none
    | steps + 1, line, text =>
      let fuel := 8 * text.length + 16
      match (readPipeline fuel line text).bind fun found => readAndOr fuel line found.1 found.2 with
      | none => none
      | some (first, rest) =>
        let more (first : Statement) (rest : List Char) : Option (Statement × List Char) :=
          match skipBlanks rest with
          | [] => some (first, [])
          | '\n' :: after => some (first, '\n' :: after)
          | after => (go steps line after).map fun found => (inSequence first found.1, found.2)
        match skipBlanks rest with
        | [] => some (first, [])
        | '\n' :: after => some (first, '\n' :: after)
        | ';' :: ';' :: _ => none
        | ';' :: after => more first after
        | '&' :: after => more (.background first) after
        | _ => none

def read (text : String) : Parsed := readAll (text.length + 1) 0 text.toList

end PipeShell.Machine.Script
