import PipeShell.OsError
import PipeShell.Text.Field

/-!
A file tree in memory: regular files, directories, symbolic links and devices, numbered in the order
of their creation. A path is walked from a directory one name at a time, and links are replaced by
their targets on the way.
-/
namespace PipeShell.Machine

abbrev NodeId := Nat

/-- What a regular file holds: bytes, or the machine code of a tool. -/
inductive Content where
  | bytes (data : ByteArray)
  | tool (name : String)

inductive Node where
  | file (mode : Nat) (content : Content)
  | directory (parent : NodeId) (entries : List (String × NodeId))
  | link (target : String)
  /-- A device that gives nothing and takes everything. -/
  | nullDevice

/-- The nodes of a tree; the root directory is the first. -/
structure FileTree where
  nodes : Array Node

namespace FileTree

def root : NodeId := 0

def empty : FileTree := ⟨#[.directory root []]⟩

def toolCode (name : String) : ByteArray := ⟨#[0x7F, 0x45, 0x4C, 0x46, 2, 1, 1, 0]⟩ ++ name.toUTF8

def contentBytes : Content → ByteArray
  | .bytes data => data
  | .tool name => toolCode name

/-! ### Walking a path -/

def linkLimit : Nat := 40

def nameLimit : Nat := 255

def pathLimit : Nat := 4096

/-- The names on a path. A slash at the end asks for a directory, as a last name `.` does. -/
def namesOf (path : String) : List String :=
  (Text.fields '/' path).filter (· ≠ "") ++ if path.endsWith "/" then ["."] else []

def startOf (base : NodeId) (path : String) : NodeId := if path.startsWith "/" then root else base

/-- Walks the names from a node, following at most `links` links. A link at the very end is followed
only if `follow` says so. -/
def walk (tree : FileTree) (follow : Bool) (links : Nat) (base : NodeId) (names : List String) :
    Except OsError NodeId :=
  match names with
  | [] => .ok base
  | name :: rest =>
    match tree.nodes[base]? with
    | some (.directory parent entries) =>
      if name = "." then walk tree follow links base rest
      else if name = ".." then walk tree follow links parent rest
      else if name.utf8ByteSize > nameLimit then .error .nameTooLong
      else match entries.lookup name with
        | none => .error .noSuchEntry
        | some found =>
          match tree.nodes[found]? with
          | some (.link target) =>
            if rest.isEmpty && !follow then .ok found
            else match links with
              | 0 => .error .tooManyLinks
              | left + 1 => walk tree follow left (startOf base target) (namesOf target ++ rest)
          | _ => walk tree follow links found rest
    | _ => .error .notDirectory
  termination_by (links, names.length)

def resolve (tree : FileTree) (base : NodeId) (path : String) (follow : Bool := true) :
    Except OsError NodeId :=
  if path.isEmpty then .error .noSuchEntry
  else if path.utf8ByteSize ≥ pathLimit then .error .nameTooLong
  else walk tree follow linkLimit (startOf base path) (namesOf path)

def node (tree : FileTree) (base : NodeId) (path : String) (follow : Bool := true) :
    Except OsError Node :=
  match tree.resolve base path follow with
  | .error cause => .error cause
  | .ok found =>
    match tree.nodes[found]? with
    | some node => .ok node
    | none => .error .noSuchEntry

def directoryAt (tree : FileTree) (base : NodeId) (path : String) : Except OsError NodeId :=
  match tree.resolve base path with
  | .error cause => .error cause
  | .ok found =>
    match tree.nodes[found]? with
    | some (.directory _ _) => .ok found
    | _ => .error .notDirectory

/-- The names from the root to a directory, nearest first; nothing if it was removed. -/
def namesUp (tree : FileTree) (id : NodeId) : Nat → Option (List String)
  | 0 => none
  | fuel + 1 =>
    if id = root then some []
    else match tree.nodes[id]? with
      | some (.directory parent _) =>
        match tree.nodes[parent]? with
        | some (.directory _ entries) =>
          match entries.find? fun entry => entry.2 = id with
          | some (name, _) => (namesUp tree parent fuel).map (name :: ·)
          | none => none
        | _ => none
      | _ => none

/-- The absolute path of a directory; nothing if it was removed. -/
def pathOf (tree : FileTree) (id : NodeId) : Option String :=
  (tree.namesUp id (tree.nodes.size + 1)).map fun names =>
    "/" ++ String.intercalate "/" names.reverse

def readFile (tree : FileTree) (base : NodeId) (path : String) : Except OsError ByteArray :=
  match tree.node base path with
  | .error cause => .error cause
  | .ok (.file _ content) => .ok (contentBytes content)
  | .ok .nullDevice => .ok ByteArray.empty
  | .ok _ => .error .isDirectory

/-! ### Changing the tree -/

def place (tree : FileTree) (base : NodeId) (path : String) : Except OsError (NodeId × String) :=
  match ((Text.fields '/' path).filter (· ≠ "")).reverse with
  | [] => .error (if path.isEmpty then .noSuchEntry else .exists)
  | name :: before =>
    match walk tree true linkLimit (startOf base path) (before.reverse ++ ["."]) with
    | .error cause => .error cause
    | .ok directory =>
      if name.utf8ByteSize > nameLimit then .error .nameTooLong
      else if (tree.pathOf directory).isNone then .error .noSuchEntry
      else .ok (directory, name)

/-- The directory and the name of the entry that a path leads to, through so many links at its
end. -/
def placeThrough (tree : FileTree) (base : NodeId) (path : String) :
    Nat → Except OsError (NodeId × String)
  | 0 => .error .tooManyLinks
  | links + 1 =>
    match tree.place base path with
    | .error cause => .error cause
    | .ok (directory, name) =>
      match tree.nodes[directory]? with
      | some (.directory _ entries) =>
        match (entries.lookup name).bind (tree.nodes[·]?) with
        | some (.link target) => placeThrough tree directory target links
        | _ => .ok (directory, name)
      | _ => .error .notDirectory

/-- The absolute path that a path comes to when all links are followed; its last name may be
missing. -/
def canonical (tree : FileTree) (base : NodeId) (path : String) : Except OsError String :=
  match tree.directoryAt base path with
  | .ok id => (tree.pathOf id).elim (.error .noSuchEntry) .ok
  | .error _ =>
    match tree.placeThrough base path linkLimit with
    | .error cause => .error cause
    | .ok (directory, name) =>
      match tree.pathOf directory with
      | none => .error .noSuchEntry
      | some front => .ok ((if front = "/" then "" else front) ++ "/" ++ name)

def updateEntries (tree : FileTree) (directory : NodeId)
    (change : List (String × NodeId) → List (String × NodeId)) : FileTree :=
  match tree.nodes[directory]? with
  | some (.directory parent entries) =>
    ⟨tree.nodes.set! directory (.directory parent (change entries))⟩
  | _ => tree

def setEntry (tree : FileTree) (directory : NodeId) (name : String) (id : NodeId) : FileTree :=
  tree.updateEntries directory fun entries =>
    entries.filter (fun entry => entry.1 ≠ name) ++ [(name, id)]

def removeEntry (tree : FileTree) (directory : NodeId) (name : String) : FileTree :=
  tree.updateEntries directory fun entries => entries.filter fun entry => entry.1 ≠ name

def addNode (tree : FileTree) (directory : NodeId) (name : String) (node : Node) : FileTree :=
  setEntry ⟨tree.nodes.push node⟩ directory name tree.nodes.size

def setNode (tree : FileTree) (id : NodeId) (node : Node) : FileTree := ⟨tree.nodes.set! id node⟩

abbrev Change := FileTree → Except OsError FileTree

def create (base : NodeId) (path : String) (node : NodeId → Node) : Change := fun tree =>
  match tree.resolve base path false with
  | .ok _ => .error .exists
  | .error _ =>
    match tree.place base path with
    | .error cause => .error cause
    | .ok (directory, name) => .ok (tree.addNode directory name (node directory))

def makeDirectory (base : NodeId) (path : String) : Change :=
  create base path fun parent => .directory parent []

def makeLink (base : NodeId) (target path : String) : Change :=
  create base path fun _ => .link target

/-- Writes a file, which is created with the given mode if it does not exist. -/
def writeFile (base : NodeId) (path : String) (content : Content) (mode : Nat := 0o644) :
    Change := fun tree =>
  match tree.resolve base path with
  | .ok id =>
    match tree.nodes[id]? with
    | some (.file mode _) => .ok (tree.setNode id (.file mode content))
    | some .nullDevice => .ok tree
    | _ => .error .isDirectory
  | .error .noSuchEntry =>
    if path.endsWith "/" then
      .error (match tree.place base path with
        | .ok _ => .isDirectory
        | .error cause => cause)
    else match tree.placeThrough base path linkLimit with
      | .error cause => .error cause
      | .ok (directory, name) => .ok (tree.addNode directory name (.file mode content))
  | .error cause => .error cause

def appendFile (base : NodeId) (path : String) (data : ByteArray) : Change := fun tree =>
  match tree.node base path with
  | .ok (.file _ content) => writeFile base path (.bytes (contentBytes content ++ data)) 0o644 tree
  | _ => writeFile base path (.bytes data) 0o644 tree

def appendTo (id : NodeId) (data : ByteArray) : Change := fun tree =>
  match tree.nodes[id]? with
  | some (.file mode content) =>
    .ok (tree.setNode id (.file mode (.bytes (contentBytes content ++ data))))
  | _ => .ok tree

def setMode (base : NodeId) (path : String) (mode : Nat → Nat) : Change := fun tree =>
  match tree.resolve base path with
  | .error cause => .error cause
  | .ok id =>
    match tree.nodes[id]? with
    | some (.file old content) => .ok (tree.setNode id (.file (mode old) content))
    | _ => .ok tree

def removeDirectory (base : NodeId) (path : String) : Change := fun tree =>
  match tree.resolve base path false with
  | .error cause => .error cause
  | .ok id =>
    match tree.nodes[id]?, tree.place base path with
    | some (.directory _ []), .ok (directory, name) =>
      if name = "." then .error .invalidArgument
      else if name = ".." then .error .directoryNotEmpty
      else .ok (tree.removeEntry directory name)
    | some (.directory _ []), .error _ => .error .busy
    | some (.directory _ _), _ =>
      .error (if id = root then .busy else .directoryNotEmpty)
    | _, _ => .error .notDirectory

def removeFile (base : NodeId) (path : String) : Change := fun tree =>
  match tree.resolve base path false with
  | .error cause => .error cause
  | .ok id =>
    match tree.nodes[id]?, tree.place base path with
    | some (.directory _ _), _ => .error .isDirectory
    | _, .ok (directory, name) => .ok (tree.removeEntry directory name)
    | _, .error cause => .error cause

def removeAll (base : NodeId) (path : String) : Change := fun tree =>
  match tree.resolve base path false, tree.place base path with
  | .error cause, _ => .error cause
  | _, .error cause => .error cause
  | .ok _, .ok (directory, name) => .ok (tree.removeEntry directory name)

def isWithin (tree : FileTree) (outer : NodeId) : Nat → NodeId → Bool
  | 0, _ => false
  | fuel + 1, id =>
    id = outer || match tree.nodes[id]? with
      | some (.directory parent _) => id ≠ root && isWithin tree outer fuel parent
      | _ => false

/-- Why an entry cannot take a place: a directory does not replace a file, a file does not replace a
directory, and only an empty directory is replaced. -/
def replaceFault? (moved : Node) (isDirectoryPath : Bool) : Option Node → Option OsError
  | none =>
    match moved with
    | .directory _ _ => none
    | _ => if isDirectoryPath then some .notDirectory else none
  | some old =>
    match moved, old with
    | .directory _ _, .directory _ [] => none
    | .directory _ _, .directory _ _ => some .directoryNotEmpty
    | .directory _ _, _ => some .notDirectory
    | _, .directory _ _ => some .isDirectory
    | _, _ => none

/-- Gives a node a new name; the entry that had the name before is replaced. -/
def rename (base : NodeId) (source target : String) : Change := fun tree =>
  match tree.resolve base source false, tree.place base source, tree.place base target with
  | .ok id, .ok (sourceDirectory, sourceName), .ok (directory, name) =>
    match tree.nodes[id]? with
    | none => .error .noSuchEntry
    | some node =>
      let isBelow := match node with
        | .directory _ _ => tree.isWithin id (tree.nodes.size + 1) directory
        | _ => false
      let old := ((tree.resolve base target false).toOption).bind (tree.nodes[·]?)
      if isBelow then .error .invalidArgument
      else match replaceFault? node (target.endsWith "/") old with
        | some cause => .error cause
        | none =>
          let moved := (tree.removeEntry sourceDirectory sourceName).setEntry directory name id
          match node with
          | .directory _ entries => .ok (moved.setNode id (.directory directory entries))
          | _ => .ok moved
  | .error cause, _, _ | _, .error cause, _ | _, _, .error cause => .error cause

/-- The directory that a list of names leads to, with those that are missing created on the way. -/
def ensureDirectories (tree : FileTree) (base : NodeId) : List String → FileTree × NodeId
  | [] => (tree, base)
  | name :: rest =>
    match walk tree true linkLimit base [name] with
    | .ok found => ensureDirectories tree found rest
    | .error _ =>
      ensureDirectories (tree.addNode base name (.directory base [])) tree.nodes.size rest

/-- Puts a node at a path, with all directories it needs. A directory that exists is kept. -/
def put (tree : FileTree) (base : NodeId) (path : String) (node : NodeId → Node) : FileTree :=
  match ((Text.fields '/' path).filter fun name => name ≠ "" && name ≠ ".").reverse with
  | [] => tree
  | name :: before =>
    let made := tree.ensureDirectories (startOf base path) before.reverse
    match node made.2, walk made.1 true linkLimit made.2 [name] with
    | .directory _ _, .ok _ => made.1
    | .file mode content, .ok id =>
      match made.1.nodes[id]? with
      | some (.file _ _) => made.1.setNode id (.file mode content)
      | _ => made.1
    | new, _ => made.1.addNode made.2 name new

end FileTree

end PipeShell.Machine
