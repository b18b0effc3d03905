import PipeShell.Machine.Tool.Filing

/-!
Tools that give entries of the file tree other places: `cp`, `mv` and `ln`. They take sources and a
target, which may be a directory for all of them.
-/
namespace PipeShell.Machine.Tool

/-! ### Targets -/

structure Placement where
  verbose : Bool
  /-- Whether what is there already is kept. -/
  keepsOld : Bool
  /-- The directory for all sources, if it does not stand behind them. -/
  directory : Option String
  /-- Whether the target is taken as it is, even if it is a directory. -/
  asGiven : Bool

def Placement.ofFlags (flags : Flags) : Placement where
  verbose := flags.has 'v'
  keepsOld := flags.has 'n'
  directory := flags.value? 't'
  asGiven := flags.has 'T'

/-- The target of one source: in a directory it keeps its name. -/
def Placement.targetFor (placement : Placement) (tree : FileTree) (base : NodeId)
    (source target : String) : String :=
  match tree.directoryAt base target with
  | .ok _ => if placement.asGiven then target else inside target (lastName source)
  | .error _ => target

def directoryFault? (tree : FileTree) (base : NodeId) (path : String) : Option OsError :=
  match tree.directoryAt base path, tree.resolve base path with
  | .ok _, _ => none
  | .error _, .ok _ => some .notDirectory
  | .error _, .error cause => some cause

/-- Does something for each source and its target, once the operands are known to make sense. -/
def Placement.forSources (placement : Placement) (call : Call) (operands : List String)
    (action : String → String → Program UInt8) : Program UInt8 := do
  let tree ← Program.tree
  let each (sources : List String) (target : String) : Program UInt8 :=
    forEach (fun source => do
      action source (placement.targetFor (← Program.tree) call.directory source target)) sources
  match placement.directory, operands.reverse with
  | _, [] => misuse call 1 "missing file operand"
  | some target, _ =>
    match directoryFault? tree call.directory target with
    | some cause => fail call 1 ("target directory " ++ asWord target ++ ": " ++ cause.text)
    | none => each operands target
  | none, [only] => misuse call 1 ("missing destination file operand after " ++ asWord only)
  | none, target :: sources =>
    if placement.asGiven && sources.length > 1 then
      misuse call 1 ("extra operand " ++ asWord (operands.getD 2 ""))
    else match directoryFault? tree call.directory target with
      | some cause =>
        if sources.length > 1 then fail call 1 ("target " ++ asWord target ++ ": " ++ cause.text)
        else each sources.reverse target
      | none => each sources.reverse target

structure Step where
  change : FileTree.Change
  said : String
  problem : OsError → String

def Placement.carryOut (placement : Placement) (call : Call) (step : Except String Step) :
    Program UInt8 := do
  match step with
  | .error problem => fail call 1 problem
  | .ok step =>
    match ← Program.change step.change with
    | .error cause => fail call 1 (step.problem cause)
    | .ok () => do
      if placement.verbose then Program.put (step.said ++ "\n")
      return 0

def arrow (sign first second : String) : String :=
  asWord first ++ " " ++ sign ++ " " ++ asWord second

def sameFile (source target : String) : String :=
  asWord source ++ " and " ++ asWord target ++ " are the same file"

/-! ### Copying -/

/-- What a copy takes over: whether modes are kept, and whether links stay links. -/
structure CopyStyle where
  deep : Bool
  keepsModes : Bool
  keepsLinks : Bool

mutual

def copyTo (style : CopyStyle) (base : NodeId) :
    Nat → NodeId → String → FileTree → Except OsError FileTree
  | 0, _, _, _ => .error .tooManyLinks
  | depth + 1, source, target, tree =>
    match tree.nodes[source]? with
    | some (.file mode content) =>
      FileTree.writeFile base target content (if style.keepsModes then mode else masked mode) tree
    | some (.link text) => FileTree.makeLink base text target tree
    | some (.directory _ entries) =>
      match tree.directoryAt base target with
      | .ok _ => copyEntries style base depth entries target tree
      | .error _ =>
        match FileTree.makeDirectory base target tree with
        | .ok tree => copyEntries style base depth entries target tree
        | .error cause => .error cause
    | some .nullDevice => FileTree.writeFile base target (.bytes ByteArray.empty) 0o644 tree
    | none => .error .noSuchEntry

def copyEntries (style : CopyStyle) (base : NodeId) :
    Nat → List (String × NodeId) → String → FileTree → Except OsError FileTree
  | _, [], _, tree => .ok tree
  | 0, _ :: _, _, _ => .error .tooManyLinks
  | depth + 1, (name, id) :: rest, target, tree =>
    match copyTo style base depth id (inside target name) tree with
    | .ok tree => copyEntries style base depth rest target tree
    | .error cause => .error cause

end

def isDangling (tree : FileTree) (base : NodeId) (path : String) : Bool :=
  (tree.resolve base path false).toOption.isSome && (tree.resolve base path).toOption.isNone

def CopyStyle.step (style : CopyStyle) (call : Call) (tree : FileTree) (source target : String) :
    Except String Step :=
  let base := call.directory
  match tree.resolve base source (!style.keepsLinks) with
  | .error cause => .error ("cannot stat " ++ asWord source ++ ": " ++ cause.text)
  | .ok id =>
    let said := arrow "->" source target
    match tree.nodes[id]? with
    | some (.directory _ _) =>
      if !style.deep then .error ("-r not specified; omitting directory " ++ asWord source)
      else .ok ⟨copyTo style base (2 * tree.nodes.size + 2) id target, said,
        fun cause => "cannot create directory " ++ asWord target ++ ": " ++ cause.text⟩
    | _ =>
      if (tree.resolve base target).toOption = some id then .error (sameFile source target)
      else if isDangling tree base target then
        .error ("not writing through dangling symlink " ++ asWord target)
      else .ok ⟨copyTo style base 2 id target, said, fun cause =>
        let cause := if cause = .isDirectory then .notDirectory else cause
        "cannot create regular file " ++ asWord target ++ ": " ++ cause.text⟩

def cpFlags : FlagSet where
  plain := "rRapfvnPLdT".toList
  valued := ['t']
  long := [("recursive", 'r'), ("archive", 'a'), ("verbose", 'v'), ("no-clobber", 'n'),
    ("force", 'f'), ("target-directory", 't'), ("no-target-directory", 'T'),
    ("no-dereference", 'P')]

def CopyStyle.ofFlags (flags : Flags) : CopyStyle where
  deep := flags.has 'r' || flags.has 'R' || flags.has 'a'
  keepsModes := flags.has 'p' || flags.has 'a'
  keepsLinks := !flags.has 'L' &&
    (flags.has 'r' || flags.has 'R' || flags.has 'a' || flags.has 'P' || flags.has 'd')

def cp : Tool := withFlags cpFlags 1 fun call flags =>
  let placement := Placement.ofFlags flags
  placement.forSources call flags.operands fun source target => do
    let tree ← Program.tree
    let taken := (tree.resolve call.directory target false).toOption.isSome
    if placement.keepsOld && taken then return 0
    placement.carryOut call ((CopyStyle.ofFlags flags).step call tree source target)

/-! ### Moving -/

def moveProblem (source target : String) (targetExists : Bool) (cause : OsError) : String :=
  let named := "cannot move " ++ asWord source ++ " to "
  match cause with
  | .invalidArgument => named ++ "a subdirectory of itself, " ++ asWord target
  | .directoryNotEmpty => "cannot overwrite " ++ asWord target ++ ": " ++ cause.text
  | .isDirectory => "cannot overwrite directory " ++ asWord target ++ " with non-directory"
  | .notDirectory =>
    if targetExists then
      "cannot overwrite non-directory " ++ asWord target ++ " with directory " ++ asWord source
    else named ++ asWord target ++ ": " ++ cause.text
  | _ => named ++ asWord target ++ ": " ++ cause.text

def moveStep (call : Call) (tree : FileTree) (source target : String) : Except String Step :=
  let target? := (tree.resolve call.directory target false).toOption
  match tree.resolve call.directory source false with
  | .error cause => .error ("cannot stat " ++ asWord source ++ ": " ++ cause.text)
  | .ok id =>
    if target? = some id then .error (sameFile source target)
    else .ok ⟨FileTree.rename call.directory source target, "renamed " ++ arrow "->" source target,
      moveProblem source target target?.isSome⟩

def mvFlags : FlagSet where
  plain := ['f', 'n', 'v', 'i', 'T']
  valued := ['t']
  long := [("force", 'f'), ("no-clobber", 'n'), ("verbose", 'v'), ("target-directory", 't'),
    ("no-target-directory", 'T')]

def mv : Tool := withFlags mvFlags 1 fun call flags =>
  let placement := Placement.ofFlags flags
  placement.forSources call flags.operands fun source target => do
    let tree ← Program.tree
    if placement.keepsOld && (tree.resolve call.directory target false).toOption.isSome then
      fail call 1 ("not replacing " ++ asWord target)
    else placement.carryOut call (moveStep call tree source target)

/-! ### Linking -/

def makeName (base : NodeId) (source target : String) : FileTree.Change := fun tree =>
  match tree.resolve base source false, tree.resolve base target false, tree.place base target with
  | .error cause, _, _ => .error cause
  | _, .ok _, _ => .error .exists
  | _, _, .error cause => .error cause
  | .ok id, .error _, .ok (directory, name) => .ok (tree.setEntry directory name id)

def lnFlags : FlagSet where
  plain := ['s', 'f', 'n', 'v', 'T']
  valued := ['t']
  long := [("symbolic", 's'), ("force", 'f'), ("no-dereference", 'n'), ("verbose", 'v'),
    ("target-directory", 't'), ("no-target-directory", 'T')]

def linkStep (call : Call) (symbolic : Bool) (tree : FileTree) (source target : String) :
    Except String Step :=
  if symbolic then
    .ok ⟨FileTree.makeLink call.directory source target, arrow "->" target source,
      fun cause => "failed to create symbolic link " ++ asWord target ++ ": " ++ cause.text⟩
  else match tree.node call.directory source with
    | .ok (.directory _ _) => .error (asName source ++ ": hard link not allowed for directory")
    | _ => .ok ⟨makeName call.directory source target, arrow "=>" target source,
      fun cause => "failed to create hard link " ++ asWord target ++ ": " ++ cause.text⟩

def ln : Tool := withFlags lnFlags 1 fun call flags => do
  let tree ← Program.tree
  let isLink (path : String) : Bool := match tree.node call.directory path false with
    | .ok (.link _) => true
    | _ => false
  let placement := { Placement.ofFlags flags with
    keepsOld := false
    asGiven := flags.has 'T' || (flags.has 'n' && (flags.operands.getLast?.map isLink).getD false) }
  let link (source target : String) : Program UInt8 := do
    if flags.has 'f' then
      let _ ← Program.change (FileTree.removeFile call.directory target)
    placement.carryOut call (linkStep call (flags.has 's') (← Program.tree) source target)
  match flags.operands, placement.directory with
  | [only], none => link only (lastName only)
  | operands, _ => placement.forSources call operands link

end PipeShell.Machine.Tool
