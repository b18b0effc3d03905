import PipeShell.Machine.Loader
import PipeShell.Machine.Signal
import PipeShell.Machine.Tool.Formatting
import PipeShell.Machine.Tool.Listing

/-!
Tools that start other programs in surroundings of their own, and tools for those surroundings:
`env`, `printenv`, `nice`, `nohup`, `stdbuf`, `timeout`, `xargs` and `sleep`. Time does not pass on
a machine, so no program is ever late.
-/
namespace PipeShell.Machine.Tool

/-! ### Loading -/

def fallbackShell : String := "/bin/sh"

/-- Loads a program; a file in no known format is taken for a script. -/
def loadOrRead (launch : Launcher) : Launcher := fun path call tree =>
  match launch path call tree with
  | .error .execFormat =>
    launch fallbackShell { call with name := fallbackShell, args := path :: call.args } tree
  | answer => answer

def load (launch : Launcher) (call : Call) : Program (Except OsError (Program UInt8)) := do
  return Loader.launchByName (loadOrRead launch) (call.environment.lookup "PATH") call.name call
    (← Program.tree)

def loadCode (cause : OsError) : UInt8 := if cause = .noSuchEntry then 127 else 126

/-- Puts the program of some words in the place of a tool; `front` stands in front of the name in
the report of a fault. -/
def become (launch : Launcher) (call : Call) (front name : String) (args : List String) :
    Program UInt8 := do
  match ← load launch { call with name := name, args := args } with
  | .ok program => program
  | .error cause => fail call (loadCode cause) (front ++ quoted name ++ ": " ++ cause.text)

def canceledCode : UInt8 := 125

/-! ### Environments -/

def setVariable (environment : List (String × String)) (name value : String) :
    List (String × String) :=
  if (environment.lookup name).isSome then
    environment.map fun entry => if entry.1 = name then (name, value) else entry
  else environment ++ [(name, value)]

/-- The words in front of a command that `env` sets as variables. -/
def assignments (environment : List (String × String)) :
    List String → List (String × String) × List String
  | [] => (environment, [])
  | word :: rest =>
    if word.contains '=' then
      let name := String.ofList (word.toList.takeWhile (· ≠ '='))
      assignments (setVariable environment name
        (String.ofList ((word.toList.dropWhile (· ≠ '=')).drop 1))) rest
    else (environment, word :: rest)

def ended (withNul : Bool) (texts : List String) : String :=
  String.join (texts.map fun text => text ++ if withNul then "\x00" else "\n")

def variableTexts (environment : List (String × String)) : List String :=
  environment.map fun entry => entry.1 ++ "=" ++ entry.2

def envFlags : FlagSet where
  plain := ['i', '0', 'v']
  valued := ['u', 'C']
  long := [("ignore-environment", 'i'), ("null", '0'), ("unset", 'u'), ("chdir", 'C')]
  strict := true

def callIn (call : Call) (directory : Option String) : Program (Except String Call) := do
  match directory with
  | none => return .ok call
  | some path =>
    return match (← Program.tree).directoryAt call.directory path with
      | .ok id => .ok { call with directory := id }
      | .error cause => .error ("cannot change directory to " ++ quoted path ++ ": " ++ cause.text)

/-- Starts the program of some words; a name with a blank in it may be a list of words by
mistake. -/
def becomeWords (launch : Launcher) (call : Call) (name : String) (args : List String) :
    Program UInt8 := do
  match ← load launch { call with name := name, args := args } with
  | .ok program => program
  | .error cause => do
    report call (quoted name ++ ": " ++ cause.text)
    if cause = .noSuchEntry && name.any Char.isWhitespace then
      report call "use -[v]S to pass options in shebang lines"
    return loadCode cause

def env (launch : Launcher) : Tool := withFlags envFlags canceledCode fun call flags => do
  let empty := flags.has 'i' || flags.operands.head? = some "-"
  let operands := if flags.operands.head? = some "-" then flags.operands.drop 1 else flags.operands
  let unset := flags.values 'u'
  let kept := if empty then [] else
    call.environment.filter fun entry => !unset.contains entry.1
  let (environment, words) := assignments kept operands
  match unset.find? (fun name => name.isEmpty || name.contains '='), words with
  | some name, _ => fail call canceledCode ("cannot unset " ++ quoted name ++ ": " ++
      OsError.invalidArgument.text)
  | none, [] =>
    if (flags.value? 'C').isSome then
      misuse call canceledCode "must specify command with --chdir (-C)"
    else do
      Program.put (ended (flags.has '0') (variableTexts environment))
      return 0
  | none, name :: args =>
    if flags.has '0' then misuse call canceledCode "cannot specify --null (-0) with command"
    else match ← callIn call (flags.value? 'C') with
      | .error problem => fail call canceledCode problem
      | .ok call => becomeWords launch { call with environment := environment } name args

def printenv : Tool :=
  withFlags { plain := ['0'], long := [("null", '0')], strict := true } 2 fun call flags => do
    let found := flags.operands.filterMap fun name => call.environment.lookup name
    let shown := if flags.operands.isEmpty then variableTexts call.environment else found
    Program.put (ended (flags.has '0') shown)
    return if found.length = flags.operands.length then 0 else 1

/-! ### Other surroundings -/

/-- Arguments in which `-5` in front of a command is written as the value of a flag. -/
def withAdjustment : List String → List String
  | [] => []
  | "-n" :: value :: rest => "-n" :: value :: withAdjustment rest
  | arg :: rest =>
    match arg.toList with
    | '-' :: digits =>
      if (Bytes.intOf? (String.ofList digits)).isSome then
        "-n" :: String.ofList digits :: withAdjustment rest
      else arg :: rest
    | _ => arg :: rest

def niceFlags : FlagSet where
  valued := ['n']
  long := [("adjustment", 'n')]
  strict := true

def nice (launch : Launcher) : Tool := fun call =>
  withFlags niceFlags canceledCode (fun call flags => do
    let adjustment := flags.value? 'n'
    match adjustment.filter (fun text => (Bytes.intOf? text).isNone), flags.operands with
    | some text, _ => fail call canceledCode ("invalid adjustment " ++ quoted text)
    | none, name :: args => become launch call "" name args
    | none, [] =>
      if adjustment.isSome then
        misuse call canceledCode "a command must be given with an adjustment"
      else do
        Program.put "0\n"
        return 0) { call with args := withAdjustment call.args }

def nohup (launch : Launcher) : Tool := withFlags { strict := true } canceledCode fun call flags =>
  match flags.operands with
  | [] => misuse call canceledCode "missing operand"
  | name :: args => become launch call "failed to run command " name args

def stdbufFlags : FlagSet where
  valued := ['i', 'o', 'e']
  long := [("input", 'i'), ("output", 'o'), ("error", 'e')]
  strict := true

def modeRefusal? (mode : Char × String) : Option Refusal :=
  if mode.2 = "L" then
    if mode.1 = 'i' then some ⟨"line buffering stdin is meaningless", true⟩ else none
  else if (countOf? mode.2).isSome then none
  else some ⟨"invalid mode " ++ quoted mode.2, false⟩

def stdbuf (launch : Launcher) : Tool := withFlags stdbufFlags canceledCode fun call flags =>
  match flags.given.findSome? modeRefusal?, flags.operands with
  | some refusal, _ => refuseFor call canceledCode refusal
  | none, [] => misuse call canceledCode "missing operand"
  | none, name :: args =>
    if flags.given.isEmpty then misuse call canceledCode "you must specify a buffering mode option"
    else become launch call "failed to run command " name args

/-! ### Time -/

def invalidTime (text : String) : String := "invalid time interval " ++ quoted text

def pointToHelp (call : Call) : Program Unit :=
  Program.complain ("Try '" ++ call.name ++ " --help' for more information.")

def sleep : Tool := withFlags {} 1 fun call flags => do
  if flags.operands.isEmpty then misuse call 1 "missing operand"
  else
    let bad := flags.operands.filter (!isTime ·)
    bad.forM fun text => report call (invalidTime text)
    if bad.isEmpty then return 0
    else do
      pointToHelp call
      return 1

def timeoutFlags : FlagSet where
  plain := ['v']
  valued := ['k', 's']
  long := [("kill-after", 'k'), ("signal", 's'), ("verbose", 'v'), ("foreground", 'v'),
    ("preserve-status", 'v')]
  strict := true

def timeoutProblem? (flag : Char × String) : Option String :=
  if flag.1 = 'k' then (if isTime flag.2 then none else some (invalidTime flag.2))
  else if flag.1 = 's' then
    if (Signal.number? flag.2.toUpper).isSome then none
    else some (quoted flag.2 ++ ": invalid signal")
  else none

def timeout (launch : Launcher) : Tool := withFlags timeoutFlags canceledCode fun call flags => do
  match flags.given.findSome? timeoutProblem?, flags.operands with
  | some problem, _ => misuse call canceledCode problem
  | none, time :: name :: args =>
    if isTime time then become launch call "failed to run command " name args
    else misuse call canceledCode (invalidTime time)
  | none, _ => do
    pointToHelp call
    return canceledCode

/-! ### Arguments out of text -/

inductive WordFault where
  | singleQuote
  | doubleQuote

def WordFault.message (fault : WordFault) : String :=
  "unmatched " ++ (match fault with
    | .singleQuote => "single"
    | .doubleQuote => "double") ++
    " quote; by default quotes are special to xargs unless you use the -0 option"

def intoRow (word : List Char) : List (List String) → List (List String)
  | [] => [[String.ofList word.reverse]]
  | row :: rest => (String.ofList word.reverse :: row) :: rest

/-- Splits text into words at newlines and at blanks, if these count, except where quotes or escapes
make them plain. Words in one row come from one line, or from lines that go on behind a blank. The
word so far stands in front, if one has begun; its last character comes first. -/
def wordRows (blanks : Bool) : Option (List Char) → List Char →
    Except WordFault (List (List String))
  | none, [] => .ok []
  | some word, [] => .ok [[String.ofList word.reverse]]
  | word, '\\' :: c :: rest => wordRows blanks (some (c :: word.getD [])) rest
  | word, '\'' :: rest =>
    let inner := rest.takeWhile fun c => c ≠ '\'' && c ≠ '\n'
    if (rest.drop inner.length).head? = some '\'' then
      wordRows blanks (some (inner.reverse ++ word.getD [])) (rest.drop (inner.length + 1))
    else .error .singleQuote
  | word, '"' :: rest =>
    let inner := rest.takeWhile fun c => c ≠ '"' && c ≠ '\n'
    if (rest.drop inner.length).head? = some '"' then
      wordRows blanks (some (inner.reverse ++ word.getD [])) (rest.drop (inner.length + 1))
    else .error .doubleQuote
  | none, c :: rest => wordRows blanks (if isSpace c then none else some [c]) rest
  | some word, c :: rest =>
    if c = '\n' then
      (wordRows blanks none rest).map fun rows => [String.ofList word.reverse] :: rows
    else if blanks && (c = ' ' || c = '\t') then (wordRows blanks none rest).map (intoRow word)
    else wordRows blanks (some (c :: word)) rest
  termination_by _ text => text.length
where
  isSpace (c : Char) : Bool := c.isWhitespace || c = '\x0b' || c = '\x0c'

/-- The byte that an argument gives as a separator, or what is wrong with it. -/
def delimiterOf (text : String) : Except String Char :=
  match text.toList with
  | [c] => .ok c
  | '\\' :: _ =>
    match Format.unescapeText toolEscapes text with
    | ([byte], false) => .ok (Char.ofNat byte.toNat)
    | _ => .error ("Invalid escape sequence " ++ text ++ " in input delimiter specification.")
  | _ => .error ("Invalid input delimiter specification " ++ text ++
      ": the delimiter must be either a single character or an escape sequence starting with \\.")

def separatedRows (separator : Char) (text : String) : List (List String) :=
  let fields := Text.fields separator text
  (if fields.getLast? = some "" then fields.dropLast else fields).map fun field => [field]

def rowsUpTo (last : Option String) : List (List String) → List (List String)
  | [] => []
  | row :: rest =>
    let kept := row.takeWhile fun word => some word ≠ last
    if kept.length = row.length then row :: rowsUpTo last rest
    else if kept.isEmpty then [] else [kept]

/-! ### Commands out of arguments -/

def xargsFlags : FlagSet where
  plain := ['r', 't', '0', 'x', 'p', 'o']
  valued := ['n', 'L', 'I', 'd', 'P', 's', 'a', 'E']
  attached := ['i', 'l', 'e']
  long := [("no-run-if-empty", 'r'), ("null", '0'), ("max-args", 'n'), ("delimiter", 'd'),
    ("arg-file", 'a'), ("max-procs", 'P'), ("max-lines", 'l'), ("verbose", 't'), ("exit", 'x'),
    ("max-chars", 's'), ("replace", 'i'), ("eof", 'e')]
  strict := true

structure Grouping where
  /-- How many arguments a command gets at most. -/
  arguments : Option Nat
  /-- How many rows of arguments a command gets. -/
  rows : Option Nat
  /-- What an argument takes the place of, in commands with one argument each. -/
  mark : Option String
  /-- How many bytes a command has at most. -/
  room : Nat

def usualRoom : Nat := 131072

def leastNumber (flags : Flags) (flag : Char) (least : Int) : Except String (Option Nat) :=
  match flags.value? flag with
  | none => .ok none
  | some text =>
    let behind := " for -" ++ flag.toString ++ " option"
    match Bytes.intOf? text with
    | none => .error ("invalid number \"" ++ text ++ "\"" ++ behind)
    | some n =>
      if n < least then
        .error ("value " ++ toString n ++ behind ++ " should be >= " ++ toString least)
      else .ok (some n.toNat)

def Grouping.ofFlags (flags : Flags) : Except String Grouping := do
  let arguments ← leastNumber flags 'n' 1
  let rows ← leastNumber flags 'L' 1
  let _ ← leastNumber flags 'P' 0
  let room ← leastNumber flags 's' 1
  let mark := match flags.value? 'I', flags.value? 'i' with
    | some text, _ => some text
    | none, some text => some (if text.isEmpty then "\x7b\x7d" else text)
    | none, none => none
  let rows := match rows, flags.value? 'l' with
    | some count, _ => some count
    | none, some text => some ((Bytes.natOf? text).getD 1)
    | none, none => none
  return ⟨arguments, rows, mark, room.getD usualRoom⟩

def rowsIn (flags : Flags) (text : String) : Except String (List (List String)) :=
  if flags.has '0' then .ok (separatedRows '\x00' text)
  else match flags.value? 'd' with
    | some separator => (delimiterOf separator).map fun c => separatedRows c text
    | none =>
      let blanks := !flags.has 'I' && !flags.has 'i'
      let last := match flags.value? 'E', flags.value? 'e' with
        | some word, _ => some word
        | none, other => other
      match wordRows blanks none text.toList with
      | .ok rows => .ok (rowsUpTo (last.filter (· ≠ "")) rows)
      | .error fault => .error fault.message

def inGroups {α : Type} (size : Nat) : Nat → List α → List (List α)
  | 0, _ => []
  | fuel + 1, items =>
    if items.isEmpty then [] else items.take size :: inGroups size fuel (items.drop size)

def wordSize (word : String) : Nat := word.utf8ByteSize + 1

/-- A group of words in parts that fit into some room beside a command, and whether a word fits into
no part. The part so far comes last word first. -/
def fitting (room base : Nat) (part : List String) (used : Nat) :
    List String → List (List String) × Bool
  | [] => (if part.isEmpty then [] else [part.reverse], false)
  | word :: rest =>
    if used + wordSize word ≤ room then fitting room base (word :: part) (used + wordSize word) rest
    else if part.isEmpty then ([], true)
    else if room < base + wordSize word then ([part.reverse], true)
    else
      let others := fitting room base [word] (base + wordSize word) rest
      (part.reverse :: others.1, others.2)

def allFitting (room base : Nat) : List (List String) → List (List String) × Bool
  | [] => ([], false)
  | group :: rest =>
    let first := fitting room base [] base group
    if first.2 then first
    else
      let others := allFitting room base rest
      (first.1 ++ others.1, others.2)

/-- The commands that come of rows of arguments, and whether an argument does not fit into any. -/
def Grouping.commands (grouping : Grouping) (command : List String) (runEmpty : Bool)
    (rows : List (List String)) : List (List String) × Bool :=
  let words := rows.flatten
  match grouping.mark with
  | some mark => (words.map fun word => command.map fun part => part.replace mark word, false)
  | none =>
    if words.isEmpty then (if runEmpty then [command] else [], false)
    else
      let groups := match grouping.rows, grouping.arguments with
        | some count, _ => (inGroups count (rows.length + 1) rows).map List.flatten
        | none, some count => inGroups count (words.length + 1) words
        | none, none => [words]
      let base := Bytes.total (command.map wordSize)
      let parts := allFitting grouping.room base groups
      (parts.1.map fun part => command ++ part, parts.2)

/-- Runs commands one after the other. A command that cannot be started, that a signal ends or that
exits with 255 is the last one. -/
def runCommands (launch : Launcher) (call : Call) (within : Program UInt8 → Program UInt8)
    (shown : Bool) : List (List String) → Program UInt8
  | [] => return 0
  | [] :: rest => runCommands launch call within shown rest
  | (name :: args) :: rest => do
    if shown then Program.complain (String.intercalate " " ((name :: args).map asName))
    match ← load launch { call with name := name, args := args } with
    | .error cause => fail call (loadCode cause) (name ++ ": " ++ cause.text)
    | .ok program =>
      match ← (within program).contain with
      | .signaled signal =>
        fail call 125 (name ++ ": terminated by signal " ++ toString signal)
      | .exited 255 => fail call 124 (name ++ ": exited with status 255; aborting")
      | .exited code =>
        let others ← runCommands launch call within shown rest
        return if others = 0 && code ≠ 0 then 123 else others

def argumentText (call : Call) (file : Option String) : Program (Except String String) := do
  match file with
  | none =>
    return match ← Program.readAll with
      | .ok data => .ok (Bytes.toText data)
      | .error cause => .error cause.text
  | some name =>
    return match (← Program.tree).readFile call.directory name with
      | .ok data => .ok (Bytes.toText data)
      | .error cause => .error ("Cannot open input file " ++ quoted name ++ ": " ++ cause.text)

def xargs (launch : Launcher) : Tool := withFlags xargsFlags 1 fun call flags => do
  match Grouping.ofFlags flags with
  | .error problem => misuse call 1 problem
  | .ok grouping =>
    match ← argumentText call (flags.value? 'a') with
    | .error problem => fail call 1 problem
    | .ok text =>
      match rowsIn flags text with
      | .error problem => fail call 1 problem
      | .ok rows => do
        let command := if flags.operands.isEmpty then ["echo"] else flags.operands
        let commands := grouping.commands command (!flags.has 'r') rows
        let within : Program UInt8 → Program UInt8 :=
          if flags.has 'a' then id else fun program => program.feed (.ok ByteArray.empty) 0
        let code ← runCommands launch call within (flags.has 't') commands.1
        if commands.2 && code < 124 then fail call 1 "argument line too long" else return code

end PipeShell.Machine.Tool
