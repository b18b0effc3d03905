import PipeShell.Machine.Script.Command

/-!
Running scripts: simple commands with their redirections, pipelines, and the compound commands. A
script becomes one program, in which the programs that it starts are embedded.
-/
namespace PipeShell.Machine.Script

/-! ### Redirections -/

def routeTo (tree : FileTree) (directory : NodeId) (path : String) : Program.Route :=
  match tree.resolve directory path with
  | .ok id =>
    match tree.nodes[id]? with
    | some .nullDevice => .nowhere
    | _ => .file id
  | .error _ => .nowhere

def creationProblem (path : String) (cause : OsError) : String :=
  "cannot create " ++ path ++ ": " ++ (match cause with
    | .noSuchEntry => "Directory nonexistent"
    | _ => cause.text)

def openingProblem (path : String) (cause : OsError) : String :=
  "cannot open " ++ path ++ ": " ++ (match cause with
    | .noSuchEntry => "No such file"
    | _ => cause.text)

def Wiring.send (wiring : Wiring) (stream : Nat) (route : Program.Route) : Wiring :=
  match stream with
  | 1 => { wiring with out := route }
  | 2 => { wiring with err := route }
  | _ => wiring

def redirect (state : State) (wiring : Wiring) (stream : Nat) (kind : RedirectionKind)
    (target : String) : Program (Except String Wiring) := do
  match kind with
  | .document _ => return .ok { wiring with input := some (.ok target.toUTF8) }
  | .input =>
    let tree ← Program.tree
    match tree.node state.directory target with
    | .error cause => return .error (openingProblem target cause)
    | .ok (.file _ content) =>
      return .ok { wiring with input := some (.ok (FileTree.contentBytes content)) }
    | .ok (.directory _ _) => return .ok { wiring with input := some (.error .isDirectory) }
    | .ok _ => return .ok { wiring with input := some (.ok ByteArray.empty) }
  | .output | .append =>
    let change : FileTree.Change :=
      if kind = .append then FileTree.appendFile state.directory target ByteArray.empty
      else FileTree.writeFile state.directory target (.bytes ByteArray.empty)
    match ← Program.change change with
    | .error cause => return .error (creationProblem target cause)
    | .ok () => return .ok (wiring.send stream (routeTo (← Program.tree) state.directory target))
  | .duplicate =>
    match target with
    | "1" => return .ok (wiring.send stream wiring.out)
    | "2" => return .ok (wiring.send stream wiring.err)
    | "0" => return .ok wiring
    | "-" =>
      return .ok (if stream = 0 then { wiring with input := some (.error .inputOutput) }
        else wiring.send stream .nowhere)
    | _ => return .error (target ++ ": Bad file descriptor")

abbrev Substitute := State → Statement → Program (State × String)

def redirectAll (substitute : Substitute) : State → Wiring → List Redirection →
    Program (Except String (State × Wiring))
  | state, wiring, [] => return .ok (state, wiring)
  | state, wiring, .mk stream kind word :: rest => do
    match ← expandPieces substitute expansionLimit state word with
    | .error fault => return .error fault.message
    | .ok (state, fragments) =>
      match ← redirect state wiring stream kind (textOf fragments) with
      | .error problem => return .error problem
      | .ok wiring => redirectAll substitute state wiring rest

/-- Runs something under redirections; if they fail, it does not run. -/
def underRedirections (substitute : Substitute) (state : State) (line : Nat)
    (redirections : List Redirection) (body : State → Ran) : Ran := do
  if redirections.isEmpty then body state
  else do
    let start : Wiring := { out := .channel .out, err := .channel .err }
    match ← redirectAll substitute state start redirections with
    | .error problem => do
      complain state line problem
      withStatus state 2
    | .ok (state, wiring) => wiring.apply (body state)

/-! ### Simple commands -/

def expandAssignments (substitute : Substitute) : State → List (String × Word) →
    Program (Except ExpansionFault (State × List (String × String)))
  | state, [] => return .ok (state, [])
  | state, (name, word) :: rest => do
    match ← expandPieces substitute expansionLimit state word with
    | .error fault => return .error fault
    | .ok (state, fragments) =>
      match ← expandAssignments substitute (state.set name (textOf fragments)) rest with
      | .error fault => return .error fault
      | .ok (state, others) => return .ok (state, (name, textOf fragments) :: others)

def runsScript (word : Word) : Bool :=
  word.any fun piece => match piece with
    | .output _ _ => true
    | _ => false

def setAll (state : State) (assigned : List (String × String)) : State :=
  assigned.foldl (fun state entry => state.set entry.1 entry.2) state

/-- Calls a function: its arguments are in place while it runs. -/
def callFunction (run : Runner) (state : State) (body : Statement) (args : List String) : Ran := do
  let after ← run false false { state with arguments := args, saved := some [] } body
  let restored := leaveFunction state after.1
  match after.2 with
  | .back => return (restored, .next)
  | flow => return (restored, flow)

def runProgram (tail : Bool) (state : State) (program : Program UInt8) : Ran := do
  if tail && state.traps.isEmpty then
    let code ← program
    return (state, .exit code.toNat)
  else runChild state program

def runWords (launch : Launcher) (run : Runner) (substitute : Substitute) (tail : Bool)
    (state : State) (line : Nat) (assigned : List (String × String)) (name : String)
    (args : List String) (redirections : List Redirection) : Ran := do
  match ← redirectAll substitute state { out := state.out, err := state.err } redirections with
  | .error problem => do
    complain state line problem
    if specialNames.contains name then stopWith state 2 else withStatus state 2
  | .ok (state, wiring) =>
    match state.functions.lookup name with
    | some body =>
      let within := { state with out := .channel .out, err := .channel .err }
      wiring.apply (callFunction run (setAll within assigned) body args)
    | none =>
      if name = "exec" then
        let state := setAll state assigned
        if args.isEmpty then
          withStatus { state with out := wiring.out, err := wiring.err } 0
        else do
          let code ← wiring.apply (external launch state line assigned args)
          return (state, .exit code.toNat)
      else
        let within := { state with out := .channel .out, err := .channel .err }
        match own launch run (setAll within assigned) line name args with
        | some ran => do
          let after ← wiring.apply ran
          let old := assigned.map fun entry => (entry.1, state.bindings.lookup entry.1)
          let kept := if specialNames.contains name then after.1 else restoreAll after.1 old
          return ({ kept with out := state.out, err := state.err }, after.2)
        | none =>
          let program := external launch state line assigned (name :: args)
          runProgram tail state (wiring.apply program)

def showTraced (state : State) (assigned : List (String × String)) (fields : List String) :
    Program Unit :=
  if state.isTraced then
    let words := assigned.map (fun entry => entry.1 ++ "=" ++ entry.2) ++ fields
    let wiring : Wiring := { out := state.out, err := state.err }
    wiring.apply (Program.complain (String.intercalate " " ("+" :: words)))
  else return ()

/-- Runs a simple command: its words are expanded first, then its assignments. -/
def runSimple (launch : Launcher) (run : Runner) (substitute : Substitute) (tail : Bool)
    (state : State) (line : Nat) (assignments : List (String × Word)) (words : List Word)
    (redirections : List Redirection) : Ran := do
  match ← expandWords substitute state words with
  | .error fault => do
    complain state line fault.message
    stopWith state 2
  | .ok (state, fields) =>
    match ← expandAssignments substitute state assignments with
    | .error fault => do
      complain state line fault.message
      stopWith state 2
    | .ok (after, assigned) =>
      match fields with
      | [] => do
        showTraced state assigned []
        let status := if assignments.any (fun entry => runsScript entry.2) || words.any runsScript
          then after.status else 0
        underRedirections substitute after line redirections fun state => withStatus state status
      | name :: args =>
        let state := { state with status := after.status }
        showTraced state assigned fields
        runWords launch run substitute tail state line assigned name args redirections

/-! ### Compound commands -/

/-- What a loop does behind a turn of its body: goes on, or ends in some way. -/
def afterTurn (ended : State × Flow) : State ⊕ (State × Flow) :=
  match ended with
  | (state, .next) => .inl state
  | (state, .leave n) => .inr (state, if n ≤ 1 then .next else .leave (n - 1))
  | (state, .again n) => if n ≤ 1 then .inl state else .inr (state, .again (n - 1))
  | other => .inr other

def runEach (name : String) (body : State → Ran) : State → List String → Ran
  | state, [] => return (state, .next)
  | state, value :: rest => do
    match afterTurn (← body (state.set name value)) with
    | .inl state => runEach name body state rest
    | .inr ended => return ended

def chooseBranch (substitute : Substitute) (text : String) : State → List (List Word × Statement) →
    Program (Except ExpansionFault (State × Option Statement))
  | state, [] => return .ok (state, none)
  | state, (patterns, body) :: rest => do
    match ← anyFits substitute text state patterns with
    | .error fault => return .error fault
    | .ok (state, true) => return .ok (state, some body)
    | .ok (state, false) => chooseBranch substitute text state rest
where
  anyFits (substitute : Substitute) (text : String) : State → List Word →
      Program (Except ExpansionFault (State × Bool))
    | state, [] => return .ok (state, false)
    | state, word :: rest => do
      match ← expandGlyphs substitute state word with
      | .error fault => return .error fault
      | .ok (state, pattern) =>
        if fitsText pattern text then return .ok (state, true)
        else anyFits substitute text state rest

/-- Programs with pipes between them; the fate of the last counts. -/
def inPipes : List (Program Fate) → Program Fate
  | [] => return .exited 0
  | [last] => last
  | first :: rest => do
    let fates ← Program.connect ByteArray.empty first (inPipes rest)
    return fates.2

/-- Ends a strict script behind a command that failed, unless its status is asked for. -/
def checkStrict (tested : Bool) (ended : State × Flow) : State × Flow :=
  if ended.2 = .next && ended.1.isStrict && !tested && ended.1.status ≠ 0 then
    (ended.1, .exit ended.1.status)
  else ended

/-- Runs a script. The depth bounds how far scripts contain or call each other. -/
def run (launch : Launcher) : Nat → Runner
  | 0, _, _, _, _ => .killed overtimeSignal
  | depth + 1, tail, tested, state, script => do
    if state.isIdle then return (state, .next)
    let within : Runner := run launch depth
    let substitute : Substitute := fun state script => do
      let result ← (asProcess within true state script).contain.capture ByteArray.empty
      return ({ state with status := result.2.status }, Bytes.toText result.1)
    match script with
    | .empty => return (state, .next)
    | .simple line assignments words redirections => do
      let ended ← runSimple launch within substitute tail state line assignments words redirections
      return checkStrict tested ended
    | .piped stages => do
      let fate ← inPipes (stages.map fun stage => (asProcess within true state stage).contain)
      return checkStrict tested ({ state with status := fate.status }, .next)
    | .negated script => do
      let (state, flow) ← within false true state script
      return ({ state with status := if state.status = 0 then 1 else 0 }, flow)
    | .sequence first second => do
      match ← within false tested state first with
      | (state, .next) => within tail tested state second
      | ended => return ended
    | .both first second => do
      match ← within false true state first with
      | (state, .next) =>
        if state.status = 0 then within tail tested state second else return (state, .next)
      | ended => return ended
    | .either first second => do
      match ← within false true state first with
      | (state, .next) =>
        if state.status = 0 then return (state, .next) else within tail tested state second
      | ended => return ended
    | .background script => do
      let _ ← ((asProcess within true state script).feed (.ok ByteArray.empty) 0).contain
      withStatus state 0
    | .group body redirections =>
      underRedirections substitute state 1 redirections fun state =>
        within (tail && redirections.isEmpty) tested state body
    | .subshell body redirections =>
      underRedirections substitute state 1 redirections fun state => do
        let ended ← runChild state (asProcess within true state body)
        return checkStrict tested ended
    | .choice condition yes no redirections =>
      underRedirections substitute state 1 redirections fun state => do
        match ← within false true state condition with
        | (state, .next) =>
          let passed := state.status = 0
          within (tail && redirections.isEmpty) tested { state with status := 0 }
            (if passed then yes else no)
        | ended => return ended
    | .loop whileTrue condition body redirections =>
      underRedirections substitute state 1 redirections fun state =>
        Program.iterate (fun (place : State × Nat) => do
          match ← within false true place.1 condition with
          | (state, .next) =>
            if (state.status = 0) = whileTrue then do
              match afterTurn (← within false tested { state with status := 0 } body) with
              | .inl state => return .inl (state, state.status)
              | .inr ended => return .inr ended
            else return .inr ({ state with status := place.2 }, .next)
          | ended =>
            match afterTurn ended with
            | .inl state => return .inl (state, state.status)
            | .inr ended => return .inr ended) Program.loopLimit (state, 0)
    | .each name words body redirections =>
      underRedirections substitute state 1 redirections fun state => do
        let expanded ← match words with
          | none => pure (.ok (state, state.arguments))
          | some words => expandWords substitute state words
        match expanded with
        | .error fault => do
          complain state 1 fault.message
          stopWith state 2
        | .ok (state, values) =>
          runEach name (fun state => within false tested state body) { state with status := 0 }
            values
    | .select word branches redirections =>
      underRedirections substitute state 1 redirections fun state => do
        match ← expandPieces substitute expansionLimit state word with
        | .error fault => do
          complain state 1 fault.message
          stopWith state 2
        | .ok (state, fragments) =>
          match ← chooseBranch substitute (textOf fragments) state branches with
          | .error fault => do
            complain state 1 fault.message
            stopWith state 2
          | .ok (state, none) => withStatus state 0
          | .ok (state, some body) =>
            within (tail && redirections.isEmpty) tested { state with status := 0 } body
    | .define name body =>
      withStatus { state with
        functions := (name, body) :: state.functions.filter fun entry => entry.1 ≠ name } 0

/-! ### The shell as a tool -/

def depthLimit : Nat := 1000000

inductive Source where
  | text (script : String)
  | file (path : String)
  | input

structure Request where
  source : Source
  arguments : List String
  options : List Char

def optionLetters : List Char := "efnsxvucaimCVEbI".toList

def requestOf (options : List Char) (operands : List String) : Except String Request :=
  let kept := options.filter (· ≠ 'c')
  if options.contains 'c' then
    match operands with
    | [] => .error "-c requires an argument"
    | script :: args => .ok ⟨.text script, args, kept⟩
  else match operands with
    | [] => .ok ⟨.input, [], kept⟩
    | path :: args =>
      if options.contains 's' then .ok ⟨.input, operands, kept⟩ else .ok ⟨.file path, args, kept⟩

def readArguments (options : List Char) : List String → Except String Request
  | [] => requestOf options []
  | "--" :: rest | "-" :: rest => requestOf options rest
  | word :: rest =>
    match word.toList with
    | ['-', 'o'] =>
      match rest with
      | [] => requestOf options []
      | name :: others =>
        match optionNames.lookup name with
        | some letter => readArguments (options ++ [letter]) others
        | none => .error ("Illegal option -o " ++ name)
    | '-' :: letters =>
      match letters.find? fun letter => !optionLetters.contains letter with
      | some letter => .error ("Illegal option -" ++ letter.toString)
      | none => readArguments (options ++ letters) rest
    | _ => requestOf options (word :: rest)

def initial (call : Call) (tree : FileTree) (name : String) (arguments : List String)
    (options : List Char) : State :=
  { name := name
    arguments := arguments
    bindings := ("PWD", (tree.pathOf call.directory).getD "") ::
      ("IFS", " \t\n") :: ("OPTIND", "1") :: call.environment
    exported := (call.environment.map Prod.fst).filter (· ≠ "PWD") ++ ["PWD"]
    directory := call.directory
    process := call.process
    options := options }

def runText (launch : Launcher) (state : State) (text : String) : Program UInt8 := do
  let runner := run launch depthLimit
  finish runner (← runParsed runner false state (read text))

/-- The shell: runs the script that its arguments name, or its input. -/
def shell (launch : Launcher) : Tool := fun call => do
  let tree ← Program.tree
  match readArguments [] call.args with
  | .error problem => do
    Program.complain (call.name ++ ": 0: " ++ problem)
    return 2
  | .ok ⟨.text script, args, options⟩ =>
    runText launch (initial call tree (args.headD call.name) (args.drop 1) options) script
  | .ok ⟨.file path, args, options⟩ =>
    match tree.node call.directory path with
    | .ok (.file _ content) =>
      runText launch (initial call tree path args options)
        (Bytes.toText (FileTree.contentBytes content))
    | .ok _ => return 0
    | .error cause => do
      Program.complain (call.name ++ ": 0: " ++ openingProblem path cause)
      return 2
  | .ok ⟨.input, args, options⟩ => do
    match ← Program.readAll with
    | .error _ => return 0
    | .ok data => runText launch (initial call tree call.name args options) (Bytes.toText data)

end PipeShell.Machine.Script
