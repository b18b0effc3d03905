import PipeShell.Machine.Tool.Editing.Command
import PipeShell.Machine.Tool.Input

/-!
The tool `sed`: a script of commands is carried out on each line. The text that the commands change
holds one line at first, and may come to hold several.
-/
namespace PipeShell.Machine.Tool

namespace Edit

/-! ### The lines of the input -/

/-- The input as far as it was read: lines that are complete, the beginning of the next one, whether
the standard input is being read, and the operands after it. -/
structure Feed where
  ready : List ByteArray := []
  rest : ByteArray := ByteArray.empty
  reading : Bool := false
  operands : List String
  code : UInt8 := 0

def readErrors : InputErrors where
  opening name cause := "can't read " ++ name ++ ": " ++ cause.text
  reading name cause :=
    if name = "-" then "read error on stdin: " ++ cause.text
    else "couldn't edit " ++ name ++ ": not a regular file"
  code := 2

/-- Takes bytes of the input; what follows their last newline waits for the rest of its line. -/
def Feed.take (feed : Feed) (data : ByteArray) : Feed :=
  let all := Bytes.lines (feed.rest ++ data)
  match all.getLast? with
  | none => feed
  | some last =>
    if Bytes.endsLine last then { feed with ready := feed.ready ++ all, rest := ByteArray.empty }
    else { feed with ready := feed.ready ++ all.dropLast, rest := last }

def Feed.close (feed : Feed) : Feed :=
  if feed.rest.isEmpty then { feed with reading := false }
  else { feed with
    ready := feed.ready ++ [feed.rest], rest := ByteArray.empty, reading := false }

def Feed.unused (feed : Feed) : Nat := Bytes.total (feed.ready.map ByteArray.size) + feed.rest.size

/-- Reads on until two lines are ready or nothing is left: then it is known which line is the
last. -/
def Feed.fill (call : Call) (feed : Feed) : Program Feed :=
  Program.iterate (fun (feed : Feed) => do
    if !(feed.ready.drop 1).isEmpty then return .inr feed
    else if feed.reading then
      match ← Program.readChunk with
      | .ok chunk => return .inl (if chunk.isEmpty then feed.close else feed.take chunk)
      | .error cause => do
        reportInput call readErrors "-" cause
        return .inl { feed.close with code := readErrors.code }
    else match feed.operands with
      | [] => return .inr feed
      | name :: others =>
        match ← openOperand call name with
        | .input => return .inl { feed with reading := true, operands := others }
        | .file data => return .inl ({ feed with operands := others }.take data).close
        | .refused cause => do
          reportInput call readErrors name cause
          return .inl { feed with operands := others, code := readErrors.code })
    Program.loopLimit feed

/-! ### The state -/

/-- What goes on from line to line: the line number, the open ranges by the place of their command,
with the number of the last line where that is known, the text laid aside and the last pattern. -/
structure State where
  feed : Feed
  line : Nat := 0
  openRanges : List (Nat × Option Nat) := []
  aside : Array UInt8 := #[]
  lastPattern : Pattern := .nothing
  text : Array UInt8 := #[]
  /-- Whether the last line of the text ends with a newline. -/
  terminated : Bool := true
  /-- The same of the text laid aside. -/
  asideTerminated : Bool := true
  /-- What is put out at the end of the cycle. -/
  after : ByteArray := ByteArray.empty
  /-- Whether something was replaced since the last line was read. -/
  replaced : Bool := false
  /-- Whether a newline is owed before anything else is put out. -/
  owed : Bool := false

def State.isLast (state : State) : Bool := state.feed.ready.isEmpty

/-- Puts text out with its newline, which a last line without one lacks until more follows. -/
def State.show (state : State) (text : ByteArray) (terminated : Bool) : Program State := do
  let front := if state.owed then "\n".toUTF8 else ByteArray.empty
  Program.emit .out (front ++ if terminated then text.push Bytes.newline else text)
  return { state with owed := !terminated }

def State.put (state : State) (bytes : ByteArray) : Program State := do
  if bytes.isEmpty then return state
  let front := if state.owed then "\n".toUTF8 else ByteArray.empty
  Program.emit .out (front ++ bytes)
  return { state with owed := false }

def State.settle (state : State) : Program State := do
  if state.owed then Program.put "\n"
  return { state with owed := false }

def State.nextLine (call : Call) (state : State) : Program (Option ByteArray × State) := do
  let feed ← state.feed.fill call
  match feed.ready with
  | [] => return (none, { state with feed := feed })
  | line :: others =>
    return (some (Bytes.chomp line), { state with
      feed := { feed with ready := others }
      line := state.line + 1
      terminated := Bytes.endsLine line || !others.isEmpty })

def State.patternOf (state : State) (sought : Sought) : Pattern := sought.getD state.lastPattern

def fits (state : State) : Address → Bool × State
  | .line number => (state.line = number, state)
  | .stepped first step =>
    (if step = 0 then state.line = first
      else state.line ≥ first && (state.line - first) % step = 0, state)
  | .final => (state.isLast, state)
  | .found sought =>
    let pattern := state.patternOf sought
    ((pattern.find? state.text 0).isSome, { state with lastPattern := pattern })

/-- Whether a command is meant for this line; ranges open and close on the way. -/
def applies (state : State) (place : Nat) : Span → Bool × State
  | .always => (true, state)
  | .one address => fits state address
  | .count first more =>
    let others := state.openRanges.filter fun range => range.1 ≠ place
    match state.openRanges.lookup place with
    | some (some stop) =>
      (true, if stop ≤ state.line then { state with openRanges := others } else state)
    | _ =>
      let found := fits state first
      if found.1 then
        (true, if more = 0 then found.2 else { found.2 with
          openRanges := (place, some (state.line + more)) :: state.openRanges })
      else found
  | .range first last =>
    let others := state.openRanges.filter fun range => range.1 ≠ place
    if (state.openRanges.lookup place).isSome then
      match last with
      | .line number =>
        (state.line ≤ number,
          if number ≤ state.line then { state with openRanges := others } else state)
      | other =>
        let found := fits state other
        (true, if found.1 then { found.2 with openRanges := others } else found.2)
    else
      let found := fits state first
      let single : Bool := match last with
        | .line number => number ≤ state.line
        | _ => false
      if found.1 && !single then
        (true, { found.2 with openRanges := (place, none) :: state.openRanges })
      else found

def isOpen (state : State) (place : Nat) : Bool := (state.openRanges.lookup place).isSome

/-! ### Replacing -/

def fill (text : Array UInt8) (start : Nat) (found : Pattern.Place) : List Part → List UInt8
  | [] => []
  | .bytes data :: rest => data ++ fill text start found rest
  | .group 0 :: rest => (text.extract start found.offset).toList ++ fill text start found rest
  | .group number :: rest =>
    (match found.groups.lookup number with
      | some (first, last) => (text.extract first last).toList
      | none => []) ++ fill text start found rest

/-- Replaces matches from a place on: how many were seen, whether one was replaced, and the
result. -/
def replaceFrom (pattern : Pattern) (what : Substitution) (text : Array UInt8) :
    Nat → Nat → Nat → Option Nat → List UInt8 → Bool → List UInt8 × Bool
  | 0, start, _, _, soFar, replaced => (soFar ++ (text.extract start text.size).toList, replaced)
  | fuel + 1, start, seen, lastEnd, soFar, replaced =>
    match pattern.find? text start with
    | none => (soFar ++ (text.extract start text.size).toList, replaced)
    | some (first, found) =>
      let before := soFar ++ (text.extract start first).toList
      let isEmpty := found.offset = first
      if isEmpty && lastEnd = some first then
        if first < text.size then
          replaceFrom pattern what text fuel (first + 1) seen none
            (before ++ (text.extract first (first + 1)).toList) replaced
        else (before, replaced)
      else
        let count := seen + 1
        let chosen := count = what.which || (what.all && count ≥ what.which)
        let shown := if chosen then fill text first found what.parts
          else (text.extract first found.offset).toList
        if chosen && !what.all then
          (before ++ shown ++ (text.extract found.offset text.size).toList, true)
        else if isEmpty then
          if first < text.size then
            replaceFrom pattern what text fuel (first + 1) count none
              (before ++ shown ++ (text.extract first (first + 1)).toList) (replaced || chosen)
          else (before ++ shown, replaced || chosen)
        else
          replaceFrom pattern what text fuel found.offset count (some found.offset)
            (before ++ shown) (replaced || chosen)

/-! ### Carrying out a script -/

inductive Step where
  | go (place : Nat) (state : State)
  /-- Ends the cycle, with the text put out or not. -/
  | ended (shows : Bool) (state : State)
  /-- Ends the cycle without a new line for the next one. -/
  | again (state : State)
  /-- Ends all. -/
  | quit (shows : Bool) (code : Nat) (state : State)

/-- The place behind a label; without one, behind the last command. -/
def placeOf (script : Array Command) (name : List UInt8) : Nat :=
  if name.isEmpty then script.size
  else (script.findIdx? fun command => match command.action with
    | .label other => other = name
    | _ => false).getD script.size

def firstLine (text : Array UInt8) : List UInt8 × Option (List UInt8) :=
  let first := text.toList.takeWhile (· ≠ Bytes.newline)
  match text.toList.drop first.length with
  | [] => (first, none)
  | _ :: rest => (first, some rest)

def substitute (state : State) (what : Substitution) : Program State := do
  let pattern := state.patternOf what.sought
  let result := replaceFrom pattern what state.text (state.text.size + 2) 0 0 none [] false
  let state := { state with
    lastPattern := pattern, text := result.1.toArray, replaced := state.replaced || result.2 }
  if result.2 && what.shows then state.show ⟨state.text⟩ state.terminated else return state

def finishCycle (silent shows : Bool) (state : State) : Program State := do
  let state ← if silent || !shows then pure state else state.show ⟨state.text⟩ state.terminated
  let state ← state.put state.after
  return { state with after := ByteArray.empty }

def act (call : Call) (script : Array Command) (silent : Bool) (place : Nat) (command : Command)
    (state : State) : Program Step := do
  let newline : Array UInt8 := #[Bytes.newline]
  match command.action with
  | .block _ | .label _ => return .go (place + 1) state
  | .print => return .go (place + 1) (← state.show ⟨state.text⟩ state.terminated)
  | .printFirst =>
    let first := firstLine state.text
    return .go (place + 1)
      (← state.show (Bytes.ofList first.1) (first.2.isSome || state.terminated))
  | .delete => return .ended false state
  | .deleteFirst =>
    match (firstLine state.text).2 with
    | none => return .ended false state
    | some rest => return .again { state with text := rest.toArray }
  | .quit false code => return .quit false code state
  | .quit true code => return .quit false code (← (← finishCycle silent true state).settle)
  | .number => return .go (place + 1) (← state.put (toString state.line ++ "\n").toUTF8)
  | .translate pairs =>
    return .go (place + 1) { state with
      text := state.text.map fun byte => (pairs.lookup byte).getD byte }
  | .append text => return .go (place + 1) { state with after := state.after ++ Bytes.ofList text }
  | .insert text => return .go (place + 1) (← state.put (Bytes.ofList text))
  | .change text =>
    if !command.negated && isOpen state place then return .ended false state
    else return .ended false (← state.put (Bytes.ofList text))
  | .appendFile name =>
    match (← Program.tree).readFile call.directory name with
    | .ok data => return .go (place + 1) { state with after := state.after ++ data }
    | .error _ => return .go (place + 1) state
  | .next =>
    let feed ← state.feed.fill call
    if feed.ready.isEmpty then return .quit true 0 { state with feed := feed }
    else
      match ← (← finishCycle silent true { state with feed := feed }).nextLine call with
      | (none, state) => return .quit false 0 state
      | (some line, state) => return .go (place + 1) { state with text := line.data }
  | .join =>
    match ← state.nextLine call with
    | (none, state) => return .quit true 0 state
    | (some line, next) =>
      let next ← next.put next.after
      return .go (place + 1) { next with
        after := ByteArray.empty, text := state.text ++ newline ++ line.data }
  | .layAside false =>
    return .go (place + 1) { state with
      aside := state.text, asideTerminated := state.terminated }
  | .layAside true =>
    return .go (place + 1) { state with
      aside := state.aside ++ newline ++ state.text
      asideTerminated := state.terminated }
  | .takeBack false =>
    return .go (place + 1) { state with
      text := state.aside, terminated := state.asideTerminated }
  | .takeBack true =>
    return .go (place + 1) { state with
      text := state.text ++ newline ++ state.aside
      terminated := state.asideTerminated }
  | .exchange =>
    return .go (place + 1) { state with
      text := state.aside, aside := state.text
      terminated := state.asideTerminated, asideTerminated := state.terminated }
  | .clear => return .go (place + 1) { state with text := #[] }
  | .jump none name => return .go (placeOf script name) state
  | .jump (some wanted) name =>
    return .go (if state.replaced = wanted then placeOf script name else place + 1)
      { state with replaced := false }
  | .substitute what => return .go (place + 1) (← substitute state what)

def runCycle (call : Call) (script : Array Command) (silent : Bool) (state : State) :
    Program Step :=
  Program.iterate (fun (mark : Nat × State) => do
    match script[mark.1]? with
    | none => return .inr (.ended true mark.2)
    | some command =>
      let meant := applies mark.2 mark.1 command.span
      if meant.1 = command.negated then
        match command.action with
        | .block size => return .inl (mark.1 + size + 1, meant.2)
        | _ => return .inl (mark.1 + 1, meant.2)
      else match ← act call script silent mark.1 command meant.2 with
        | .go place state => return .inl (place, state)
        | step => return .inr step) Program.loopLimit (0, state)

def runScript (call : Call) (script : Array Command) (silent : Bool) (operands : List String) :
    Program UInt8 :=
  Program.iterate (fun (turn : Bool × State) => do
    let (more, state) ← if turn.1 then pure (true, turn.2)
      else (do
        match ← turn.2.nextLine call with
        | (none, state) => pure (false, state)
        | (some line, state) => pure (true, { state with text := line.data, replaced := false }))
    if !more then return .inr state.feed.code
    else
      match ← runCycle call script silent state with
      | .go _ state | .ended true state => return .inl (false, ← finishCycle silent true state)
      | .ended false state => return .inl (false, ← finishCycle silent false state)
      | .again state => return .inl (true, ← finishCycle silent false state)
      | .quit shows code state => do
        let state ← finishCycle silent shows state
        if state.feed.operands.isEmpty then Program.unread state.feed.unused (.done ())
        return .inr (UInt8.ofNat code)) Program.loopLimit
    (false, { feed := { operands := orInput operands } })

end Edit

open Edit in
def sed : Tool := withFlags
  { plain := ['n', 'E', 'r', 's', 'u'], valued := ['e', 'f'],
    long := [("quiet", 'n'), ("silent", 'n'), ("expression", 'e'), ("regexp-extended", 'E'),
      ("file", 'f')] } 1
  fun call flags => do
    let given := flags.given.filter fun entry => entry.1 = 'e' || entry.1 = 'f'
    let tree ← Program.tree
    let written := if given.isEmpty then flags.operands.take 1
      else given.map fun entry =>
        if entry.1 = 'e' then entry.2
        else Bytes.toText ((tree.readFile call.directory entry.2).toOption.getD ByteArray.empty)
    let files := if given.isEmpty then flags.operands.drop 1 else flags.operands
    if written.isEmpty then
      Program.complain ("Usage: " ++ call.name ++
        " [OPTION]... \x7bscript-only-if-no-other-script\x7d [input-file]...")
      return 1
    match script? (flags.has 'E' || flags.has 'r') (String.intercalate "\n" written) with
    | none => fail call 1 "-e expression #1, char 1: unknown command"
    | some script => runScript call script (flags.has 'n') files

end PipeShell.Machine.Tool
