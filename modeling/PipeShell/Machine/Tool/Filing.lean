import PipeShell.Machine.Tool.Modes

/-!
Tools that make and remove entries of the file tree: `mkdir`, `rmdir`, `touch` and `rm`.
-/
namespace PipeShell.Machine.Tool

def changeOr (call : Call) (step : FileTree.Change) (problem : String) : Program UInt8 := do
  match ← Program.change step with
  | .ok () => return 0
  | .error cause => fail call 1 (problem ++ ": " ++ cause.text)

/-- Makes a change, and says something if it is asked to and the change does not fail. -/
def changeAloud (call : Call) (verbose : Bool) (said : String) (step : FileTree.Change)
    (problem : String) : Program UInt8 := do
  let code ← changeOr call step problem
  if verbose && code = 0 then Program.put (said ++ "\n")
  return code

def lastName (path : String) : String :=
  ((Text.fields '/' path).filter (· ≠ "")).getLast?.getD "/"

def inside (directory name : String) : String :=
  if directory.endsWith "/" then directory ++ name else directory ++ "/" ++ name

def stepsTo (path : String) : List String :=
  let names := (Text.fields '/' path).filter (· ≠ "")
  let root := if path.startsWith "/" then "/" else ""
  (List.range names.length).map fun n => root ++ String.intercalate "/" (names.take (n + 1))

/-! ### Directories and empty files -/

def mkdirFlags : FlagSet where
  plain := ['p', 'v']
  valued := ['m']
  long := [("parents", 'p'), ("verbose", 'v'), ("mode", 'm')]

def mkdirOne (call : Call) (flags : Flags) (name : String) : Program UInt8 :=
  changeAloud call (flags.has 'v') (call.name ++ ": created directory " ++ quoted name)
    (FileTree.makeDirectory call.directory name) ("cannot create directory " ++ quoted name)

def mkdir : Tool := withFlags mkdirFlags 1 fun call flags => do
  match flags.operands, (flags.value? 'm').filter fun text => (modeOf? text 0).isNone with
  | [], _ => misuse call 1 "missing operand"
  | _, some text => fail call 1 ("invalid mode " ++ quoted text)
  | names, none =>
    forEach (fun name => do
      if flags.has 'p' then
        forEach (fun step => do
          match (← Program.tree).directoryAt call.directory step with
          | .ok _ => return 0
          | .error _ => mkdirOne call flags step) (stepsTo name)
      else mkdirOne call flags name) names

def rmdirFlags : FlagSet where
  plain := ['p', 'v']
  long := [("parents", 'p'), ("verbose", 'v'), ("ignore-fail-on-non-empty", 'I')]

/-- Removes a directory; `isParent` tells whether that is only for the sake of one in it. -/
def rmdirOne (call : Call) (flags : Flags) (isParent : Bool) (name : String) : Program UInt8 := do
  if flags.has 'v' then Program.put (call.name ++ ": removing directory, " ++ asWord name ++ "\n")
  match ← Program.change (FileTree.removeDirectory call.directory name) with
  | .ok () => return 0
  | .error cause =>
    if flags.has 'I' && cause = .directoryNotEmpty then return 0
    fail call 1 ("failed to remove " ++ (if isParent then "directory " else "") ++ asWord name ++
      ": " ++ cause.text)

def rmdirParents (call : Call) (flags : Flags) (isParent : Bool) : List String → Program UInt8
  | [] => return 0
  | name :: rest => do
    let code ← rmdirOne call flags isParent name
    if code ≠ 0 then return code
    rmdirParents call flags true rest

def rmdir : Tool := withFlags rmdirFlags 1 fun call flags => do
  if flags.operands.isEmpty then return ← misuse call 1 "missing operand"
  forEach (fun name =>
    if flags.has 'p' then rmdirParents call flags false (stepsTo name).reverse
    else rmdirOne call flags false name) flags.operands

def touch : Tool := withFlags
  { plain := ['c', 'a', 'm', 'f', 'h'], valued := ['d', 't', 'r'], long := [("no-create", 'c')] } 1
  fun call flags => do
    if flags.operands.isEmpty then return ← misuse call 1 "missing file operand"
    forEach (fun name => do
      let tree ← Program.tree
      match tree.resolve call.directory name with
      | .ok _ => return 0
      | .error cause =>
        if flags.has 'c' then return 0
        if name.endsWith "/" && (tree.place call.directory name).toBool then
          return ← fail call 1 ("setting times of " ++ asWord name ++ ": " ++ cause.text)
        changeOr call (FileTree.writeFile call.directory name (.bytes ByteArray.empty))
          ("cannot touch " ++ asWord name)) flags.operands

/-! ### Removing -/

def rmFlags : FlagSet where
  plain := "rRfvdiI".toList
  long := [("recursive", 'r'), ("force", 'f'), ("verbose", 'v'), ("dir", 'd')]

mutual

/-- The paths of an entry and all below it, each behind those below it, with whether it is a
directory. -/
def pathsBelow (tree : FileTree) : Nat → NodeId → String → List (String × Bool)
  | 0, _, _ => []
  | depth + 1, id, path =>
    match tree.nodes[id]? with
    | some (.directory _ entries) => pathsOf tree depth entries path ++ [(path, true)]
    | _ => [(path, false)]

def pathsOf (tree : FileTree) : Nat → List (String × NodeId) → String → List (String × Bool)
  | 0, _, _ | _, [], _ => []
  | depth + 1, (name, id) :: rest, path =>
    pathsBelow tree depth id (inside path name) ++ pathsOf tree depth rest path

end

def removeDeep (call : Call) (verbose : Bool) (name : String) : Program UInt8 := do
  let tree ← Program.tree
  let paths := match tree.resolve call.directory name false with
    | .ok id => pathsBelow tree (2 * tree.nodes.size + 2) id name
    | .error _ => []
  let said := paths.map fun path =>
    "removed " ++ (if path.2 then "directory " else "") ++ asWord path.1
  changeAloud call verbose (String.intercalate "\n" said) (FileTree.removeAll call.directory name)
    ("cannot remove " ++ asWord name)

def rmOne (call : Call) (flags : Flags) (name : String) : Program UInt8 := do
  let problem := "cannot remove " ++ asWord name
  match (← Program.tree).node call.directory name false with
  | .error cause =>
    if cause = .noSuchEntry && flags.has 'f' then return 0
    fail call 1 (problem ++ ": " ++ cause.text)
  | .ok (.directory _ _) =>
    if flags.has 'r' || flags.has 'R' then
      if lastName name = "." || lastName name = ".." then
        fail call 1 ("refusing to remove '.' or '..' directory: skipping " ++ asWord name)
      else removeDeep call (flags.has 'v') name
    else if flags.has 'd' then
      changeAloud call (flags.has 'v') ("removed directory " ++ asWord name)
        (FileTree.removeDirectory call.directory name) problem
    else fail call 1 (problem ++ ": " ++ OsError.isDirectory.text)
  | .ok _ =>
    changeAloud call (flags.has 'v') ("removed " ++ asWord name)
      (FileTree.removeFile call.directory name) problem

def rm : Tool := withFlags rmFlags 1 fun call flags => do
  if flags.operands.isEmpty && !flags.has 'f' then return ← misuse call 1 "missing operand"
  forEach (rmOne call flags) flags.operands

end PipeShell.Machine.Tool
