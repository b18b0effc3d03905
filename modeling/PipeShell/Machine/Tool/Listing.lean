import PipeShell.Machine.Bytes
import PipeShell.Machine.Tool.Filing

/-!
Tools that show the file tree: `ls`, `dir`, `readlink`, `realpath` and `pwd`.
-/
namespace PipeShell.Machine.Tool

def namesIn (entries : List (String × NodeId)) (hidden : Bool) (dots : Bool) : List String :=
  let names := (entries.map Prod.fst).filter fun name => hidden || !name.startsWith "."
  let all := if dots then "." :: ".." :: names else names
  all.mergeSort fun a b => Bytes.order a.toUTF8 b.toUTF8 != .gt

def listing (names : List String) : String := String.join (names.map (· ++ "\n"))

/-! ### Columns -/

def lineWidth : Nat := 80

def escapedName (name : String) : String :=
  String.join ((Bytes.toList name.toUTF8).map fun byte =>
    match escapeOf? byte with
    | some escape => escape
    | none => (if byte = 32 || byte = 92 then "\\" else "") ++ shownByte byte)

def rowCount (columns : Nat) (names : List String) : Nat :=
  (names.length + columns - 1) / max columns 1

def columnWidths (columns : Nat) (names : List String) : List Nat :=
  let rows := rowCount columns names
  (List.range columns).map fun column =>
    let widest := (((names.drop (column * rows)).take rows).map String.length).foldl max 0
    if column + 1 < columns then widest + 2 else widest

def columnCount (names : List String) : Nat :=
  let most := min (lineWidth / 3) names.length
  ((List.range most).reverse.map (· + 1)).find? (fun columns =>
    Bytes.total (columnWidths columns names) < lineWidth) |>.getD 1

def indentation : Nat → Nat → Nat → String
  | 0, _, _ => ""
  | fuel + 1, start, stop =>
    if start < stop then
      if (start + 1) / 8 < stop / 8 then "\t" ++ indentation fuel (start / 8 * 8 + 8) stop
      else " " ++ indentation fuel (start + 1) stop
    else ""

def tableRow (place : Nat) : List (String × Nat) → String
  | [] => "\n"
  | [(name, _)] => name ++ "\n"
  | (name, width) :: rest =>
    let next := place + width
    name ++ indentation width (place + name.length) next ++ tableRow next rest

def columns (names : List String) : String :=
  let count := columnCount names
  let rows := rowCount count names
  let widths := columnWidths count names
  String.join ((List.range rows).map fun row =>
    tableRow 0 (widths.zipIdx.filterMap fun entry =>
      (names[entry.2 * rows + row]?).map fun name => (name, entry.1)))

/-! ### Showing directories -/

structure ListStyle where
  /-- What a name becomes, given where it is looked up. -/
  shown : String → String → String
  /-- The text of names that are shown already. -/
  arranged : List String → String
  hidden : Bool
  dots : Bool
  backwards : Bool
  /-- Whether directories are shown as entries, and whether those in directories are shown too. -/
  asEntries : Bool
  deep : Bool

def kindSign (tree : FileTree) (base : NodeId) (flags : Flags) (path : String) : String :=
  match tree.node base path false with
  | .ok (.directory _ _) => if flags.has 'F' || flags.has 'p' then "/" else ""
  | .ok (.link _) => if flags.has 'F' then "@" else ""
  | .ok (.file mode _) => if flags.has 'F' && mode &&& 0o111 ≠ 0 then "*" else ""
  | _ => ""

namespace ListStyle

def ordered (style : ListStyle) (names : List String) : List String :=
  let sorted := names.mergeSort fun a b => Bytes.order a.toUTF8 b.toUTF8 != .gt
  if style.backwards then sorted.reverse else sorted

def text (style : ListStyle) (names : List String) (path : String → String) : String :=
  style.arranged (names.map fun name => style.shown name (path name))

/-- The names of the directories that are shown, in order, each in front of those in it. -/
def directoriesBelow (style : ListStyle) (tree : FileTree) (base : NodeId) :
    Nat → List String → List String
  | 0, _ | _, [] => []
  | fuel + 1, path :: rest =>
    let below := match tree.node base path with
      | .ok (.directory _ entries) =>
        (style.ordered (namesIn entries style.hidden false)).filter (fun name =>
          match tree.node base (inside path name) false with
          | .ok (.directory _ _) => true
          | _ => false) |>.map (inside path)
      | _ => []
    path :: directoriesBelow style tree base fuel ((if style.deep then below else []) ++ rest)

def put (style : ListStyle) (call : Call) (operands : List String) : Program UInt8 := do
  let tree ← Program.tree
  let base := call.directory
  let operands := if operands.isEmpty then ["."] else operands
  let known := operands.filter fun name => (tree.resolve base name false).toOption.isSome
  let directories := if style.asEntries then [] else known.filter fun name =>
    (tree.directoryAt base name).toOption.isSome
  let files := known.filter fun name => !directories.contains name
  let code ← forEach (fun name =>
    match tree.resolve base name false with
    | .error cause => fail call 2 ("cannot access " ++ asWord name ++ ": " ++ cause.text)
    | .ok _ => return 0) operands
  Program.put (style.text (style.ordered files) id)
  let titled := operands.length > 1 || style.deep
  let all := style.directoriesBelow tree base (tree.nodes.size + directories.length + 1)
    (style.ordered directories)
  let shown := all.map fun path =>
    let entries := match tree.node base path with
      | .ok (.directory _ entries) => entries
      | _ => []
    (if titled then path ++ ":\n" else "") ++
      style.text (style.ordered (namesIn entries style.hidden style.dots)) (inside path)
  Program.put
    ((if files.isEmpty || shown.isEmpty then "" else "\n") ++ String.intercalate "\n" shown)
  return code

end ListStyle

def lsFlags : FlagSet where
  plain := "aA1CbdFprRltSnqkxmUh".toList
  attached := ['K']
  long := [("all", 'a'), ("almost-all", 'A'), ("directory", 'd'), ("reverse", 'r'), ("escape", 'b'),
    ("recursive", 'R'), ("classify", 'F'), ("color", 'K')]

/-- How the flags say that names are shown; `inColumns` and `escaped` hold if nothing else is
said. -/
def listStyle (tree : FileTree) (base : NodeId) (flags : Flags) (inColumns escaped : Bool) :
    ListStyle where
  shown name path := (if escaped || flags.has 'b' then escapedName name else name) ++
    kindSign tree base flags path
  arranged names :=
    if flags.has 'm' then (if names.isEmpty then "" else String.intercalate ", " names ++ "\n")
    else if flags.has 'C' || (inColumns && !flags.has '1') then columns names
    else listing names
  hidden := flags.has 'a' || flags.has 'A'
  dots := flags.has 'a'
  backwards := flags.has 'r'
  asEntries := flags.has 'd'
  deep := flags.has 'R'

def ls : Tool := withFlags lsFlags 2 fun call flags => do
  (listStyle (← Program.tree) call.directory flags false false).put call flags.operands

def dir : Tool := withFlags lsFlags 2 fun call flags => do
  (listStyle (← Program.tree) call.directory flags true true).put call flags.operands

/-! ### Showing paths -/

/-- The path of an operand when all links are followed, which must be there as far as the flags
say. -/
def canonicalPath (tree : FileTree) (base : NodeId) (flags : Flags) (name : String) :
    Except OsError String :=
  match tree.canonical base name with
  | .ok path =>
    if flags.has 'e' then (tree.resolve base name).map fun _ => path else .ok path
  | .error cause =>
    if flags.has 'm' then
      .ok (if name.startsWith "/" then name else inside ((tree.pathOf base).getD "") name)
    else .error cause

def readlinkFlags : FlagSet where
  plain := "fnemqsvz".toList
  long := [("canonicalize", 'f'), ("canonicalize-existing", 'e'), ("canonicalize-missing", 'm'),
    ("no-newline", 'n'), ("verbose", 'v')]

def readlink : Tool := withFlags readlinkFlags 1 fun call flags => do
  if flags.operands.isEmpty then return ← misuse call 1 "missing operand"
  let behind := if flags.has 'n' && flags.operands.length = 1 then "" else "\n"
  forEach (fun name => do
    let tree ← Program.tree
    let shown : Except OsError String :=
      if flags.has 'f' || flags.has 'e' || flags.has 'm' then
        canonicalPath tree call.directory flags name
      else match tree.node call.directory name false with
        | .ok (.link target) => .ok target
        | .ok _ => .error .invalidArgument
        | .error cause => .error cause
    match shown with
    | .ok path => do
      Program.put (path ++ behind)
      return 0
    | .error cause => do
      if flags.has 'v' then report call (asName name ++ ": " ++ cause.text)
      return 1) flags.operands

def realpath : Tool := withFlags { plain := "emqsz".toList } 1 fun call flags => do
  if flags.operands.isEmpty then return ← misuse call 1 "missing operand"
  forEach (fun name => do
    match canonicalPath (← Program.tree) call.directory flags name with
    | .ok path => do
      Program.put (path ++ "\n")
      return 0
    | .error cause => fail call 1 (asName name ++ ": " ++ cause.text)) flags.operands

def pwd : Tool := fun call => do
  match (← Program.tree).pathOf call.directory with
  | some path => do
    Program.put (path ++ "\n")
    return 0
  | none =>
    fail call 1 ("couldn't find directory entry in '..' with matching i-node")

end PipeShell.Machine.Tool
