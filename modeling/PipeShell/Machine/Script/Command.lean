import PipeShell.Machine.Loader
import PipeShell.Machine.Script.Condition
import PipeShell.Machine.Script.Expansion
import PipeShell.Machine.Script.Reading
import PipeShell.Machine.Signal
import PipeShell.Machine.Tool.Starting

/-!
The commands of a script that are no compound: those the script carries out itself, and programs
that it starts. Each changes the state of the script and says how the script goes on.
-/
namespace PipeShell.Machine.Script

inductive Flow where
  | next
  | exit (code : Nat)
  /-- Leaves so many loops. -/
  | leave (loops : Nat)
  /-- Goes on with the next turn of an outer loop, or of the innermost at 1. -/
  | again (loops : Nat)
  /-- Leaves a function or a file. -/
  | back
  deriving DecidableEq, Repr

/-- What has run: the state it leaves, and how the script goes on. -/
abbrev Ran := Program (State × Flow)

def withStatus (state : State) (status : Nat) : Ran :=
  return ({ state with status := status }, .next)

def stopWith (state : State) (status : Nat) : Ran :=
  return ({ state with status := status }, .exit status)

def complain (state : State) (line : Nat) (text : String) : Program Unit :=
  Program.complain (state.name ++ ": " ++ toString line ++ ": " ++ text)

/-- Runs a statement in a state. The first flag says that nothing follows, the second that the
status is asked for. -/
abbrev Runner := Bool → Bool → State → Statement → Ran

def runAll (run : Runner) (tail : Bool) : State → List Statement → Ran
  | state, [] => return (state, .next)
  | state, [last] => run tail false state last
  | state, script :: rest => do
    match ← run false false state script with
    | (state, .next) => runAll run tail state rest
    | ended => return ended

/-- Runs what is left of a text that was read; a part that is no script ends the whole. -/
def runParsed (run : Runner) (tail : Bool) (state : State) (parsed : Parsed) : Ran := do
  if parsed.complete then runAll run tail state parsed.commands
  else
    match ← runAll run false state parsed.commands with
    | (state, .next) => do
      complain state 1 "Syntax error"
      stopWith state 2
    | ended => return ended

/-! ### Places and streams -/

/-- A path with its `.` and `..` worked out on the text. -/
def straightened (path : String) : String :=
  let names := (Text.fields '/' path).foldl (fun (names : List String) name =>
    if name = "" || name = "." then names
    else if name = ".." then names.drop 1
    else name :: names) []
  "/" ++ String.intercalate "/" names.reverse

def placeOf (state : State) (tree : FileTree) : String :=
  (state.bindings.lookup "PWD").getD ((tree.pathOf state.directory).getD "")

def changePlace (state : State) (line : Nat) (args : List String) : Ran := do
  let physical := args.contains "-P"
  let operands := args.filter fun arg => arg ≠ "-P" && arg ≠ "-L" && arg ≠ "--"
  let tree ← Program.tree
  let here := placeOf state tree
  let target := match operands with
    | [] => (state.bindings.lookup "HOME").getD ""
    | "-" :: _ => (state.bindings.lookup "OLDPWD").getD here
    | path :: _ => path
  if target.isEmpty then return (state, .next)
  let logical := straightened (if target.startsWith "/" then target else here ++ "/" ++ target)
  let found : Except OsError NodeId :=
    match tree.directoryAt state.directory (if physical then target else logical) with
    | .ok id => .ok id
    | .error _ => tree.directoryAt state.directory target
  match found with
  | .error _ => do
    complain state line ("cd: can't cd to " ++ target)
    withStatus state 2
  | .ok id => do
    let place := if physical then (tree.pathOf id).getD logical else logical
    if operands.head? = some "-" then Program.put (place ++ "\n")
    let moved := ({ state with directory := id }.set "OLDPWD" here).set "PWD" place
    withStatus ((moved.markExported "OLDPWD").markExported "PWD") 0

def sayPlace (state : State) (args : List String) : Ran := do
  let tree ← Program.tree
  let physical := (tree.pathOf state.directory).getD ""
  Program.put ((if args.contains "-P" then physical else placeOf state tree) ++ "\n")
  withStatus state 0

/-- Reads one line byte by byte, so that the rest of the input is left to others: the bytes, and
whether a newline ended them. Unless the line is `raw`, a backslash joins lines. -/
def readLine (raw : Bool) : Program (List UInt8 × Bool) :=
  Program.iterate (fun (state : List UInt8 × Bool) => do
    match ← Program.read 1 .done with
    | .error _ => return .inr (state.1.reverse, false)
    | .ok chunk =>
      match (Bytes.toList chunk).head? with
      | none => return .inr (state.1.reverse, false)
      | some byte =>
        if state.2 then
          return .inl (if byte = Bytes.newline then (state.1, false) else (byte :: state.1, false))
        else if byte = Bytes.newline then return .inr (state.1.reverse, true)
        else if byte = 92 && !raw then return .inl (state.1, true)
        else return .inl (byte :: state.1, false)) Program.loopLimit ([], false)

/-- Gives the fields of a line to names; the last name gets what is left. -/
def assignFields (separators : String) (state : State) (text : List Char) : List String → State
  | [] => state
  | [name] =>
    let kept := (text.reverse.dropWhile fun c => separators.contains c && c.isWhitespace).reverse
    state.set name (String.ofList (kept.dropWhile fun c => separators.contains c && c.isWhitespace))
  | name :: rest =>
    let start := text.dropWhile fun c => separators.contains c && c.isWhitespace
    let field := start.takeWhile fun c => !separators.contains c
    let after := start.drop field.length
    let gap := after.dropWhile fun c => separators.contains c && c.isWhitespace
    let after := if gap.length < after.length then
        (match gap with
          | c :: more => if separators.contains c && !c.isWhitespace then more else gap
          | [] => gap)
      else after.drop 1
    assignFields separators (state.set name (String.ofList field)) after rest

def readInto (state : State) (args : List String) : Ran := do
  let raw := args.head? = some "-r"
  let names := if raw then args.drop 1 else args
  let line ← readLine raw
  let text := (Bytes.toText (Bytes.ofList line.1)).toList
  withStatus (assignFields (separatorsOf state) state text names) (if line.2 then 0 else 1)

/-! ### Signals -/

def receive (run : Runner) (state : State) (signal : Nat) : Ran :=
  match state.traps.lookup signal with
  | some none => withStatus state 0
  | some (some script) =>
    if signal = 9 || signal = 0 then (if signal = 0 then withStatus state 0 else .killed signal)
    else run false false { state with status := 0 } script
  | none => if Signal.isHarmless signal then withStatus state 0 else .killed signal

def sendTo (run : Runner) (line : Nat) (signal : Nat) : State → List String → Ran
  | state, [] => return (state, .next)
  | state, target :: rest => do
    if Bytes.natOf? target = some state.process then
      match ← receive run state signal with
      | (state, .next) => sendTo run line signal state rest
      | ended => return ended
    else do
      complain state line (if (Bytes.intOf? target).isSome then "kill: No such process"
        else "kill: Illegal number: " ++ target)
      withStatus state (if (Bytes.intOf? target).isSome then 1 else 2)

def kill (run : Runner) (state : State) (line : Nat) (args : List String) : Ran := do
  let usage : Ran := do
    complain state line "kill: Usage: kill [-s sigspec | -signum | -sigspec] [pid | job]... or"
    Program.complain "kill -l [exitstatus]"
    withStatus state 2
  let send (signal : String) (targets : List String) : Ran := do
    match Signal.number? signal with
    | some n =>
      if targets.isEmpty then usage else sendTo run line n { state with status := 0 } targets
    | none => do
      complain state line ("kill: invalid signal number or name: " ++ signal)
      withStatus state 2
  match args with
  | [] => usage
  | "-l" :: code :: _ => do
    let n := ((Bytes.natOf? code).getD 0) % 128
    Program.put ((Signal.names[n - 1]?).getD "" ++ "\n")
    withStatus state 0
  | "-l" :: [] => do
    Program.put (String.intercalate "\n" Signal.names ++ "\n")
    withStatus state 0
  | "-s" :: signal :: targets => send signal targets
  | "--" :: targets => send "TERM" targets
  | first :: targets =>
    if first.startsWith "-" then send (first.drop 1).toString targets else send "TERM" args

def setTrap (state : State) (args : List String) : State :=
  match args with
  | [] => state
  | "--" :: rest | rest =>
    match rest with
    | [] => state
    | action :: names =>
      let numbers := (if names.isEmpty then [action] else names).filterMap Signal.number?
      let kept := state.traps.filter fun entry => !numbers.contains entry.1
      if names.isEmpty || action = "-" then { state with traps := kept }
      else
        let script := if action.isEmpty then none
          else some ((read action).commands.foldr inSequence .empty)
        { state with traps := numbers.map (fun n => (n, script)) ++ kept }

/-! ### Variables -/

def splitAssignment (word : String) : String × Option String :=
  let name := word.toList.takeWhile (· ≠ '=')
  match word.toList.drop name.length with
  | _ :: value => (String.ofList name, some (String.ofList value))
  | [] => (String.ofList name, none)

def setFrom (state : State) (word : String) : State :=
  match splitAssignment word with
  | (name, some value) => state.set name value
  | (_, none) => state

/-- Makes a variable one of the function that runs: its value is put back at the end. -/
def makeLocal (state : State) (word : String) : State :=
  let name := (splitAssignment word).1
  let saved := state.saved.getD []
  let kept := if (saved.lookup name).isSome then saved
    else (name, state.bindings.lookup name) :: saved
  setFrom { state with saved := some kept } word

/-- Gives variables back the values that they had; those without a value get none. -/
def restoreAll (state : State) (values : List (String × Option String)) : State :=
  values.foldl (fun (state : State) entry =>
    match entry.2 with
    | some value => state.set entry.1 value
    | none => { state with
        bindings := state.bindings.filter fun other => other.1 ≠ entry.1 }) state

def leaveFunction (before after : State) : State :=
  let restored := restoreAll after (after.saved.getD [])
  { restored with arguments := before.arguments, saved := before.saved }

def exportAll (state : State) (words : List String) : State :=
  words.foldl (fun state word => (setFrom state word).markExported (splitAssignment word).1) state

def optionNames : List (String × Char) :=
  [("errexit", 'e'), ("noglob", 'f'), ("noexec", 'n'), ("nounset", 'u'), ("verbose", 'v'),
    ("xtrace", 'x')]

def turnOn (state : State) (letters : List Char) : State :=
  { state with options := state.options ++ letters }

def turnOff (state : State) (letters : List Char) : State :=
  { state with options := state.options.filter fun letter => !letters.contains letter }

def setOptions (state : State) : List String → State
  | [] => state
  | "--" :: rest | "-" :: rest => { state with arguments := rest }
  | "-o" :: name :: rest => setOptions (turnOn state (optionNames.lookup name).toList) rest
  | "+o" :: name :: rest => setOptions (turnOff state (optionNames.lookup name).toList) rest
  | word :: rest =>
    match word.toList with
    | '-' :: letters => setOptions (turnOn state letters) rest
    | '+' :: letters => setOptions (turnOff state letters) rest
    | _ => { state with arguments := word :: rest }

def rowCount : Nat := 39

/-- The row of a name in the table of variables: it hangs on the bytes of the name. -/
def rowOf (name : String) : Nat :=
  let bytes := Bytes.toList name.toUTF8
  bytes.foldl (fun sum byte => sum + byte.toNat) (16 * (bytes.headD 0).toNat) % rowCount

def environmentOf (state : State) (extra : List (String × String)) : List (String × String) :=
  let exported := state.exported.filterMap fun name =>
    (state.bindings.lookup name).map fun value => (name, value)
  let all := extra.foldl (fun environment entry => Tool.setVariable environment entry.1 entry.2)
    exported
  all.mergeSort fun a b => rowOf a.1 ≤ rowOf b.1

/-! ### Programs -/

def usualSearchPath : String := "/usr/local/sbin:/usr/local/bin:/usr/sbin:/usr/bin:/sbin:/bin"

/-- The first runnable file of a name on the search path, or the name itself if it has a slash. -/
def fileOf (tree : FileTree) (directory : NodeId) (searchPath : Option String) (name : String) :
    Option String :=
  if name.contains '/' then some name
  else
    let places := Text.fields ':' (searchPath.getD usualSearchPath)
    (places.map fun place => if place.isEmpty then name else place ++ "/" ++ name).find? fun path =>
      match tree.node directory path with
      | .ok (.file mode _) => mode &&& 0o111 != 0
      | _ => false

def shellPath : String := "/bin/sh"

/-- Whether a file cannot be a script: it begins like machine code, or its first line has a NUL. -/
def isBinary (tree : FileTree) (directory : NodeId) (path : String) : Bool :=
  match tree.readFile directory path with
  | .ok data =>
    let bytes := Bytes.toList data
    bytes.take 4 = [0x7F, 0x45, 0x4C, 0x46] || (bytes.takeWhile (· ≠ Bytes.newline)).contains 0
  | .error _ => false

/-- The program for a command, or the status and the text of what is wrong with it. -/
def programFor (launch : Launcher) (tree : FileTree) (call : Call) :
    Except (Nat × String) (Program UInt8) :=
  match fileOf tree call.directory (call.environment.lookup "PATH") call.name with
  | none => .error (127, call.name ++ ": not found")
  | some path =>
    match launch path call tree with
    | .ok program => .ok program
    | .error .execFormat =>
      if isBinary tree call.directory path then
        .error (126, call.name ++ ": " ++ OsError.execFormat.text)
      else match
          launch shellPath { call with name := shellPath, args := path :: call.args } tree with
      | .ok program => .ok program
      | .error cause => .error (126, call.name ++ ": " ++ cause.text)
    | .error cause =>
      match cause with
      | .noSuchEntry | .notDirectory => .error (127, call.name ++ ": not found")
      | .nameTooLong | .tooManyLinks => .error (127, call.name ++ ": " ++ cause.text)
      | _ => .error (126, call.name ++ ": " ++ cause.text)

/-- The program of an external command; one that cannot be started says so and ends. -/
def external (launch : Launcher) (state : State) (line : Nat) (extra : List (String × String))
    (words : List String) : Program UInt8 := do
  let call : Call := ⟨words.headD "", words.drop 1, state.directory, environmentOf state extra,
    state.process⟩
  match programFor launch (← Program.tree) call with
  | .ok program => program
  | .error (status, text) => do
    complain state line text
    return UInt8.ofNat status

structure Wiring where
  input : Option (Except OsError ByteArray) := none
  out : Program.Route
  err : Program.Route

def Wiring.apply {α : Type} (wiring : Wiring) (program : Program α) : Program α :=
  let routed :=
    if wiring.out = .channel .out && wiring.err = .channel .err then program
    else program.reroute fun channel => match channel with
      | .out => wiring.out
      | .err => wiring.err
  match wiring.input with
  | some data => routed.feed data 0
  | none => routed

def runChild (state : State) (program : Program UInt8) : Ran := do
  let fate ← program.contain
  match fate with
  | .signaled signal =>
    match Signal.describe signal with
    | some text => Program.complain text
    | none => pure ()
  | .exited _ => pure ()
  withStatus state fate.status

def codeOf (ended : State × Flow) : UInt8 :=
  match ended.2 with
  | .exit code => UInt8.ofNat code
  | _ => UInt8.ofNat ended.1.status

def finish (run : Runner) (ended : State × Flow) : Program UInt8 := do
  match ended.1.traps.lookup 0 with
  | some (some script) => do
    let status := (codeOf ended).toNat
    let after ← run false false { ended.1 with traps := [], status := status } script
    return match after.2 with
      | .exit code => UInt8.ofNat code
      | _ => codeOf ended
  | _ => return codeOf ended

def asProcess (run : Runner) (tail : Bool) (state : State) (script : Statement) :
    Program UInt8 := do
  finish run (← run tail false { state with traps := [] } script)

/-! ### Commands of the script itself -/

def scriptEscapes : Tool.Format.Escapes := ⟨false, true, false, 53⟩

def sayWords (state : State) (args : List String) : Ran := do
  let silent := args.head? = some "-n"
  let text := String.intercalate " " (if silent then args.drop 1 else args)
  let shown := Tool.Format.unescapeText { scriptEscapes with leadingZero := true } text
  Program.emit .out (Bytes.ofList (shown.1 ++ if silent || shown.2 then [] else [Bytes.newline]))
  withStatus state 0

def formatProblem : Tool.Format.Complaint → String
  | .noNumber argument => argument ++ ": expected numeric value"
  | .leftOver argument => argument ++ ": not completely converted"
  | .outOfRange argument => argument ++ ": Numerical result out of range"
  | .unknownDirective written => written ++ ": invalid directive"
  | .unfinishedDirective => "missing format character"

def sayAll (state : State) (line : Nat) (label : String) : List String → Program Unit
  | [] => return ()
  | text :: rest => do
    complain state line (label ++ ": " ++ text)
    sayAll state line label rest

def sayFormat (state : State) (line : Nat) (args : List String) : Ran := do
  match if args.head? = some "--" then args.drop 1 else args with
  | [] => do
    complain state line "printf: usage: printf format [arg ...]"
    withStatus state 2
  | format :: rest => do
    let written := Tool.Format.text scriptEscapes format rest
    Program.emit .out written.out
    sayAll state line "printf" (written.complaints.map formatProblem)
    withStatus state (if written.complaints.any (·.ofFormat) then 2
      else if written.complaints.isEmpty then 0 else 1)

def checkCondition (state : State) (line : Nat) (bracketed : Bool) (args : List String) : Ran := do
  let scene : Tool.Condition.Scene := ⟨← Program.tree, state.directory⟩
  let result := (Condition.argumentsOf bracketed args).bind (Condition.holds scene)
  match result with
  | .error problem =>
    complain state line ((if bracketed then "[: " else "test: ") ++ problem.message)
  | .ok _ => pure ()
  withStatus state (Tool.Condition.codeOf result).toNat

def specialNames : List String :=
  [":", "exit", "exec", "set", "shift", "export", "readonly", "unset", "eval", ".", "return",
    "break", "continue", "trap", "times"]

def plainNames : List String :=
  ["true", "false", "echo", "printf", "test", "[", "cd", "pwd", "kill", "read", "local", "umask",
    "wait", "command", "type", "hash", "jobs"]

def isOwn (name : String) : Bool := specialNames.contains name || plainNames.contains name

def numberOr (usual : Nat) (args : List String) : Nat := ((args.head?).bind Bytes.natOf?).getD usual

def describeName (state : State) (name : String) : Ran := do
  if keywords.contains name then do
    Program.put (name ++ " is a shell keyword\n")
    withStatus state 0
  else if (state.functions.lookup name).isSome then do
    Program.put (name ++ " is a shell function\n")
    withStatus state 0
  else if isOwn name then do
    Program.put (name ++ (if specialNames.contains name then " is a special shell builtin\n"
      else " is a shell builtin\n"))
    withStatus state 0
  else match fileOf (← Program.tree) state.directory (state.bindings.lookup "PATH") name with
    | some path => do
      Program.put (name ++ " is " ++ path ++ "\n")
      withStatus state 0
    | none => do
      Program.put (name ++ ": not found\n")
      withStatus state 127

/-- Says what each name refers to; the status is that of the last that refers to nothing. -/
def describeNames (state : State) : List String → Ran
  | [] => return (state, .next)
  | name :: rest => do
    let (after, _) ← describeName state name
    describeNames (if after.status = 0 then state else after) rest

/-- The first regular file of a name on the search path, or the name itself if it has a slash. -/
def scriptOf (tree : FileTree) (state : State) (name : String) : Option String :=
  if name.contains '/' then some name
  else
    let places := Text.fields ':' ((state.bindings.lookup "PATH").getD usualSearchPath)
    (places.map fun place => if place.isEmpty then name else place ++ "/" ++ name).find? fun path =>
      match tree.node state.directory path with
      | .ok (.file _ _) => true
      | _ => false

def runFile (run : Runner) (state : State) (line : Nat) (name : String) : Ran := do
  let tree ← Program.tree
  match scriptOf tree state name with
  | none => do
    complain state line (".: " ++ name ++ ": not found")
    stopWith state 2
  | some path =>
    match tree.readFile state.directory path with
    | .error _ => do
      complain state line (".: cannot open " ++ name ++ ": No such file")
      stopWith state 2
    | .ok data => do
      match ← runParsed run false state (read (Bytes.toText data)) with
      | (state, .back) => return (state, .next)
      | ended => return ended

/-- Carries out a command of the script itself; nothing if the name is none. -/
def own (launch : Launcher) (run : Runner) (state : State) (line : Nat) (name : String)
    (args : List String) : Option Ran :=
  match name with
  | ":" | "true" | "wait" | "times" | "hash" | "jobs" => some (withStatus state 0)
  | "umask" => some (do
      if args.isEmpty then Program.put "0022\n"
      withStatus state 0)
  | "false" => some (withStatus state 1)
  | "echo" => some (sayWords state args)
  | "printf" => some (sayFormat state line args)
  | "test" => some (checkCondition state line false args)
  | "[" => some (checkCondition state line true args)
  | "cd" => some (changePlace state line args)
  | "pwd" => some (sayPlace state args)
  | "kill" => some (kill run state line args)
  | "read" => some (readInto state args)
  | "exit" =>
    let code := numberOr state.status args
    some (if (args.head?).any fun arg => (Bytes.natOf? arg).isNone then do
        complain state line ("exit: Illegal number: " ++ args.headD "")
        stopWith state 2
      else return ({ state with status := code }, .exit code))
  | "return" => some (return ({ state with status := numberOr state.status args }, .back))
  | "break" => some (return ({ state with status := 0 }, .leave (numberOr 1 args)))
  | "continue" => some (return ({ state with status := 0 }, .again (numberOr 1 args)))
  | "shift" =>
    let count := numberOr 1 args
    some (if count > state.arguments.length then do
        complain state line "shift: can't shift that many"
        stopWith state 2
      else withStatus { state with arguments := state.arguments.drop count } 0)
  | "set" => some (withStatus (setOptions state args) 0)
  | "unset" => some (withStatus ((args.filter fun arg => arg ≠ "-v" && arg ≠ "-f").foldl
      (fun state name => if args.head? = some "-f"
        then { state with functions := state.functions.filter fun entry => entry.1 ≠ name }
        else state.remove name) state) 0)
  | "export" => some (withStatus (exportAll state (args.filter (· ≠ "-p"))) 0)
  | "readonly" => some (withStatus (args.foldl setFrom state) 0)
  | "local" => some (if state.saved.isSome then withStatus (args.foldl makeLocal state) 0
      else do
        complain state line "local: not in a function"
        stopWith state 2)
  | "trap" => some (withStatus (setTrap state args) 0)
  | "eval" => some (runParsed run false { state with status := 0 }
      (read (String.intercalate " " args)))
  | "." => some (runFile run state line (args.headD ""))
  | "type" => some (describeNames { state with status := 0 } args)
  | "command" =>
    match args with
    | "-v" :: name :: _ => some (do
        if isOwn name || (state.functions.lookup name).isSome then do
          Program.put (name ++ "\n")
          withStatus state 0
        else match fileOf (← Program.tree) state.directory (state.bindings.lookup "PATH") name with
          | some path => do
            Program.put (path ++ "\n")
            withStatus state 0
          | none => withStatus state 127)
    | "-V" :: name :: _ => some (describeName state name)
    | [] => some (withStatus state 0)
    | words => some (runChild state (external launch state line [] words))
  | _ => none

end PipeShell.Machine.Script
