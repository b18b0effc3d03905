import PipeShell.Machine.Basic
import PipeShell.Machine.Tool.Table

/-!
The files that a machine begins with: its tools where search paths look for them, and the entries
that a user asks for in a directory of their own.
-/
namespace PipeShell.Machine

inductive Fixture where
  | link (target : String)
  | directory
  | file (data : ByteArray)

structure FixtureEntry where
  path : String
  kind : Fixture
  mode : Option Nat := none

namespace StandardTree

def directories : List String :=
  ["/dev", "/etc", "/home", "/lib", "/opt", "/proc", "/root", "/run", "/srv", "/sys", "/tmp",
    "/usr/bin", "/usr/lib", "/usr/local/bin", "/usr/local/sbin", "/usr/sbin", "/usr/share", "/var"]

def addDirectory (tree : FileTree) (path : String) : FileTree :=
  tree.put FileTree.root path fun parent => .directory parent []

def addTool (tree : FileTree) (name : String) : FileTree :=
  tree.put FileTree.root ("/usr/bin/" ++ name) fun _ => .file 0o755 (.tool name)

def addLink (tree : FileTree) (path target : String) : FileTree :=
  tree.put FileTree.root path fun _ => .link target

def files : FileTree :=
  let bare := directories.foldl addDirectory FileTree.empty
  let tools := Tool.names.foldl addTool bare
  let shell := addLink tools "/usr/bin/sh" "dash"
  let linked := addLink (addLink shell "/bin" "usr/bin") "/sbin" "usr/sbin"
  linked.put FileTree.root "/dev/null" fun _ => .nullDevice

def addEntry (base : NodeId) (tree : FileTree) (entry : FixtureEntry) : FileTree :=
  let placed := tree.put base entry.path fun parent => match entry.kind with
    | .link target => .link target
    | .directory => .directory parent []
    | .file data => .file 0o644 (.bytes data)
  match entry.mode with
  | none => placed
  | some mode =>
    match FileTree.setMode base entry.path (fun _ => mode) placed with
    | .ok changed => changed
    | .error _ => placed

/-- The standard files with a directory that holds the given entries, and that directory. -/
def withEntries (place : String) (entries : List FixtureEntry) : FileTree × NodeId :=
  let tree := addDirectory files place
  let base := (tree.directoryAt FileTree.root place).toOption.getD FileTree.root
  (entries.foldl (addEntry base) tree, base)

end StandardTree

def startLimit : Nat := 1000

/-- A machine with the standard tools, whose shell works in a directory with the given entries. -/
def standard (place : String) (entries : List FixtureEntry) (searchPath : Option String) :
    Machine :=
  let files := StandardTree.withEntries place entries
  { tree := files.1
    directory := files.2
    searchPath := searchPath
    launch := Loader.launcher Tool.named startLimit }

end PipeShell.Machine
