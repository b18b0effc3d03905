import PipeShell.Machine.Tool.Pattern

/-!
The tool `grep`: the lines that a pattern is found in, or the others.
-/
namespace PipeShell.Machine.Tool

structure SearchStyle where
  finds : Array UInt8 → Option (Nat × Nat)
  /-- All matches in a line, for those who want the matches only. -/
  allMatches : Array UInt8 → List (Nat × Nat)
  inverted : Bool
  countOnly : Bool
  quiet : Bool
  numbered : Bool
  matchesOnly : Bool
  /-- Whether only the names of the operands are shown: those with such lines, or those without. -/
  listOnly : Option Bool
  mostLines : Option Nat
  /-- How many lines before and after are shown too, if any are. -/
  context : Option (Nat × Nat)

/-- The number of the last line, the lines found so far, and the name in front of them. -/
structure SearchState where
  number : Nat := 0
  found : Nat := 0
  title : String := ""
  /-- The lines before this one that were not shown, the nearest first. -/
  before : List ByteArray := []
  /-- How many more lines are shown because they follow one that was found. -/
  after : Nat := 0
  /-- The number of the last line that was shown. -/
  shown : Nat := 0

namespace SearchStyle

/-- What stands in front of a line; a sign tells found lines from those around them. -/
def front (style : SearchStyle) (state : SearchState) (number : Nat) (sign : String) : String :=
  (if state.title.isEmpty then "" else state.title ++ sign) ++
    (if style.numbered then toString number ++ sign else "")

def isSilent (style : SearchStyle) : Bool :=
  style.quiet || style.countOnly || style.listOnly.isSome

/-- The lines before one that was found, with a mark where others were left out. -/
def leading (style : SearchStyle) (state : SearchState) (number : Nat) : ByteArray :=
  match style.context with
  | none => ByteArray.empty
  | some (lines, _) =>
    let kept := (state.before.take lines).reverse
    let first := number - kept.length
    let mark := if state.shown > 0 && state.shown + 1 < first then "--\n" else ""
    mark.toUTF8 ++ Bytes.concat (kept.zipIdx.map fun entry =>
      (style.front state (first + entry.2) "-").toUTF8 ++ Bytes.terminated entry.1)

def passed (style : SearchStyle) (state : SearchState) (number : Nat) (line : ByteArray) :
    SearchState × ByteArray :=
  if state.after > 0 && !style.isSilent && !style.matchesOnly then
    ({ state with number := number, after := state.after - 1, shown := number },
      (style.front state number "-").toUTF8 ++ Bytes.terminated line)
  else
    let lines := (style.context.map Prod.fst).getD 0
    ({ state with number := number, before := (line :: state.before).take lines }, ByteArray.empty)

def line (style : SearchStyle) (state : SearchState) (line : ByteArray) :
    SearchState × ByteArray :=
  let text := (Bytes.chomp line).data
  let number := state.number + 1
  if (style.finds text).isSome = style.inverted then style.passed state number line
  else
    let front := style.front state number ":"
    let shown :=
      if style.isSilent then ByteArray.empty
      else if style.matchesOnly then
        Bytes.concat ((style.allMatches text).map fun range =>
          front.toUTF8 ++ (⟨text.extract range.1 range.2⟩ : ByteArray).push Bytes.newline)
      else style.leading state number ++ front.toUTF8 ++ Bytes.terminated line
    ({ state with
      number := number, found := state.found + 1, before := [], shown := number
      after := (style.context.map Prod.snd).getD 0 }, shown)

def stops (style : SearchStyle) (state : SearchState) : Bool :=
  ((style.quiet || style.listOnly.isSome) && state.found > 0) ||
    style.mostLines.any (· ≤ state.found)

def overOperand (style : SearchStyle) (call : Call) (errors : InputErrors) (titled : Bool)
    (name : String) : Program (Nat × UInt8) := do
  let shownName := if name = "-" then "(standard input)" else name
  let filter : LineFilter SearchState := { line := style.line, stops := style.stops }
  let after ← filter.run call errors { title := if titled then shownName else "" } [name]
  if style.countOnly && after.2 = 0 then
    Program.put ((if titled then shownName ++ ":" else "") ++ toString after.1.found ++ "\n")
  match style.listOnly with
  | none => return (after.1.found, after.2)
  | some wanted => do
    if (after.1.found > 0) = wanted && after.2 = 0 then Program.put (shownName ++ "\n")
    return (after.1.found, after.2)

def overOperands (style : SearchStyle) (call : Call) (errors : InputErrors) (titled : Bool) :
    List String → Program (Nat × UInt8)
  | [] => return (0, 0)
  | name :: rest => do
    let first ← style.overOperand call errors titled name
    if style.quiet && first.1 > 0 then return first
    let others ← style.overOperands call errors titled rest
    return (first.1 + others.1, if others.2 = 0 then first.2 else others.2)

end SearchStyle

def findUnder (flags : Flags) (patterns : List Pattern) (text : Array UInt8) (start : Nat) :
    Option (Nat × Nat) :=
  let candidates := patterns.filterMap fun pattern =>
    if flags.has 'x' then
      ((pattern.ends text ⟨0, []⟩).find? fun place => place.offset = text.size).map
        fun place => (0, place.offset)
    else if flags.has 'w' then
      (List.range (text.size + 1 - start)).findSome? fun step =>
        let first := start + step
        if (Pattern.wordSides text first).1 then none
        else ((pattern.ends text ⟨first, []⟩).find? fun place =>
          !(Pattern.wordSides text place.offset).2).map fun place => (first, place.offset)
    else (pattern.find? text start).map fun found => (found.1, found.2.offset)
  candidates.foldl (fun best found =>
    match best with
    | none => some found
    | some (first, last) =>
      if found.1 < first || (found.1 = first && last < found.2) then some found else best) none

def matchesFrom (find : Array UInt8 → Nat → Option (Nat × Nat)) (text : Array UInt8) :
    Nat → Nat → List (Nat × Nat)
  | 0, _ => []
  | fuel + 1, start =>
    match find text start with
    | none => []
    | some (first, last) =>
      if last ≤ first then
        if first < text.size then matchesFrom find text fuel (first + 1) else []
      else (first, last) :: matchesFrom find text fuel last

def grepFlags : FlagSet where
  plain := "vcniqxwlLohHEFGsay".toList
  valued := ['e', 'f', 'm', 'A', 'B', 'C']
  attached := ['K']
  long := [("invert-match", 'v'), ("count", 'c'), ("line-number", 'n'), ("ignore-case", 'i'),
    ("quiet", 'q'), ("silent", 'q'), ("line-regexp", 'x'), ("word-regexp", 'w'),
    ("files-with-matches", 'l'), ("only-matching", 'o'), ("no-filename", 'h'),
    ("with-filename", 'H'), ("extended-regexp", 'E'), ("fixed-strings", 'F'), ("regexp", 'e'),
    ("max-count", 'm'), ("no-messages", 's'), ("files-without-match", 'L'),
    ("after-context", 'A'), ("before-context", 'B'), ("context", 'C'),
    ("color", 'K'), ("colour", 'K'), ("file", 'f')]

def patternsOf? (flags : Flags) (text : String) : Option (List Pattern) :=
  (Text.fields '\n' text).mapM fun written =>
    let bytes := Bytes.toList written.toUTF8
    let style : Pattern.Style := ⟨flags.has 'E', flags.has 'i' || flags.has 'y'⟩
    if flags.has 'F' then
      some (bytes.foldr (fun byte rest => .sequence (style.literal byte) rest) .nothing)
    else Pattern.ofBytes? style bytes

def contextOf (flags : Flags) : Option (Nat × Nat) :=
  let number (flag : Char) : Option Nat := (flags.value? flag).bind Bytes.natOf?
  match number 'B' <|> number 'C', number 'A' <|> number 'C' with
  | none, none => none
  | before, after => some (before.getD 0, after.getD 0)

def grep : Tool := withFlags grepFlags 2 fun call flags => do
  let given := !(flags.values 'e').isEmpty || flags.has 'f'
  let written := if given then flags.values 'e' else flags.operands.take 1
  let files := if given then flags.operands else flags.operands.drop 1
  let (listed, code) ← readOperands call {} (flags.values 'f')
  if code ≠ 0 then return 2
  let written := written ++ (listed.flatMap Bytes.bareLines).map Bytes.toText
  if !given && written.isEmpty then
    Program.complain ("Usage: " ++ call.name ++ " [OPTION]... PATTERNS [FILE]...")
    Program.complain ("Try '" ++ call.name ++ " --help' for more information.")
    return 2
  match (written.mapM (patternsOf? flags)).map List.flatten with
  | none => fail call 2 "Unmatched [, [^, [:, [., or [="
  | some patterns =>
    let find := findUnder flags patterns
    let style : SearchStyle :=
      { finds := fun text => find text 0
        allMatches := fun text => matchesFrom find text (text.size + 1) 0
        inverted := flags.has 'v', countOnly := flags.has 'c', quiet := flags.has 'q'
        numbered := flags.has 'n', matchesOnly := flags.has 'o'
        listOnly := if flags.has 'L' then some false else if flags.has 'l' then some true else none
        context := contextOf flags
        mostLines := (flags.value? 'm').bind Bytes.natOf? }
    let plain (name : String) (cause : OsError) : String := name ++ ": " ++ cause.text
    let errors : InputErrors := { opening := plain, reading := plain, code := 2 }
    let titled := (files.length > 1 || flags.has 'H') && !flags.has 'h'
    let result ← style.overOperands call errors titled (orInput files)
    return if result.2 ≠ 0 && !(flags.has 'q' && result.1 > 0) then result.2
      else if result.1 > 0 then 0 else 1

end PipeShell.Machine.Tool
