import Mathlib
import PipeShell.Lookup
import PipeShell.Machine.FileTree

/-!
# The names on a path

A slash more between a directory and a name leads to the same node, and a path whose last name is
`.` leads to a directory or nowhere.
-/
namespace PipeShell

namespace Text

variable {separator : Char}

theorem fieldsOf_append (before after : List Char) :
    fieldsOf separator (before ++ separator :: after) =
      fieldsOf separator before ++ fieldsOf separator after := by
  induction before with
  | nil => simp [fieldsOf]
  | cons c rest ih =>
    by_cases hc : c = separator
    · simp [fieldsOf, hc, ih]
    · obtain ⟨field, fields, hf⟩ := List.exists_cons_of_ne_nil (fieldsOf_ne_nil separator rest)
      simp [fieldsOf, hc, ih, hf]

theorem fieldsOf_of_notMem {cs : List Char} (h : separator ∉ cs) :
    fieldsOf separator cs = [cs] := by
  induction cs with
  | nil => rfl
  | cons c rest ih =>
    obtain ⟨hc, hr⟩ := List.ne_and_not_mem_of_not_mem_cons h
    simp [fieldsOf, Ne.symm hc, ih hr]

theorem mem_of_mem_fieldsOf {cs field : List Char} {c : Char}
    (hf : field ∈ fieldsOf separator cs) (hc : c ∈ field) : c ∈ cs := by
  induction cs generalizing field with
  | nil => simp_all [fieldsOf]
  | cons first rest ih =>
    obtain ⟨head, fields, hr⟩ := List.exists_cons_of_ne_nil (fieldsOf_ne_nil separator rest)
    rw [hr] at ih
    by_cases hs : first = separator
    · rw [fieldsOf, if_pos hs, hr] at hf
      rcases List.mem_cons.mp hf with rfl | hm
      · cases hc
      · exact List.mem_cons_of_mem _ (ih hm hc)
    · rw [fieldsOf, if_neg hs, hr] at hf
      rcases List.mem_cons.mp hf with rfl | hm
      · rcases List.mem_cons.mp hc with rfl | hc
        · exact List.mem_cons_self
        · exact List.mem_cons_of_mem _ (ih List.mem_cons_self hc)
      · exact List.mem_cons_of_mem _ (ih (List.mem_cons_of_mem _ hm) hc)

theorem fields_of_toList {text : String} {before after : List Char}
    (h : text.toList = before ++ separator :: after) :
    fields separator text =
      fields separator (.ofList before) ++ fields separator (.ofList after) := by
  simp only [fields, h, fieldsOf_append, List.map_append, String.toList_ofList]

theorem fields_of_notMem {text : String} (h : separator ∉ text.toList) :
    fields separator text = [text] := by
  simp only [fields, fieldsOf_of_notMem h, List.map_cons, List.map_nil, String.ofList_toList]

end Text

namespace Machine.FileTree

variable {tree : FileTree} {base : NodeId} {directory name : String}

theorem endsWith_slash_iff {text : String} :
    text.endsWith "/" = true ↔ text.toList.getLast? = some '/' := by
  rw [String.endsWith_eq_endsWith_toSlice, String.Slice.endsWith_string_iff,
    ← List.singleton_suffix_iff_getLast?_eq_some]
  simp

theorem namesOf_slash (hd : directory.endsWith "/" = true) :
    namesOf (directory ++ "/" ++ name) = namesOf (directory ++ name) := by
  obtain ⟨before, hb⟩ := List.getLast?_eq_some_iff.mp (endsWith_slash_iff.mp hd)
  have hlong : (directory ++ "/" ++ name).toList = before ++ '/' :: '/' :: name.toList := by
    simp [hb]
  have hshort : (directory ++ name).toList = before ++ '/' :: name.toList := by
    simp [hb]
  have hend : (directory ++ "/" ++ name).endsWith "/" = (directory ++ name).endsWith "/" := by
    rw [Bool.eq_iff_iff, endsWith_slash_iff, endsWith_slash_iff, hlong, hshort]
    simp [List.getLast?_cons]
  have hrest : Text.fields '/' (.ofList ('/' :: name.toList)) = "" :: Text.fields '/' name := by
    simp [Text.fields, Text.fieldsOf]
  simp only [namesOf, hend, Text.fields_of_toList hlong, Text.fields_of_toList hshort, hrest]
  simp

theorem startOf_slash (hd : directory ≠ "") :
    startOf base (directory ++ "/" ++ name) = startOf base (directory ++ name) := by
  have hs : (directory ++ "/" ++ name).startsWith "/" = (directory ++ name).startsWith "/" := by
    obtain ⟨first, rest, hf⟩ := List.exists_cons_of_ne_nil (mt String.toList_eq_nil_iff.mp hd)
    rw [Bool.eq_iff_iff, String.startsWith_string_iff, String.startsWith_string_iff]
    simp [hf]
  rw [startOf, startOf, hs]

theorem resolve_eq_ok_iff {path : String} {found : NodeId} :
    tree.resolve base path = .ok found ↔ path ≠ "" ∧ path.utf8ByteSize < pathLimit ∧
      walk tree true linkLimit (startOf base path) (namesOf path) = .ok found := by
  unfold resolve
  by_cases hp : path = ""
  · simp [hp]
  · by_cases hs : path.utf8ByteSize < pathLimit
    · simp [hp, hs, Nat.not_le.mpr hs]
    · simp [hp, hs, Nat.not_lt.mp hs]

theorem node_eq_ok_iff {path : String} {node : Node} :
    tree.node base path = .ok node ↔
      ∃ found, tree.resolve base path = .ok found ∧ tree.nodes[found]? = some node := by
  unfold FileTree.node
  cases tree.resolve base path with
  | error cause => simp
  | ok found => cases hn : tree.nodes[found]? <;> simp [hn]

/-- What a directory, a slash and a name lead to, the two lead to when they are joined. -/
theorem node_join {node : Node} (hd : directory ≠ "")
    (h : tree.node base (directory ++ "/" ++ name) = .ok node) :
    tree.node base (Lookup.join directory name) = .ok node := by
  have hempty : directory.isEmpty = false := by simpa using hd
  unfold Lookup.join
  rw [hempty]
  cases hs : directory.endsWith "/" with
  | false => simpa using h
  | true =>
    obtain ⟨found, hf, hn⟩ := node_eq_ok_iff.mp h
    obtain ⟨-, hsize, hw⟩ := resolve_eq_ok_iff.mp hf
    rw [startOf_slash hd, namesOf_slash hs] at hw
    have hshort : (directory ++ name).utf8ByteSize < pathLimit := by
      simp only [String.utf8ByteSize_append] at hsize ⊢
      omega
    have hne : directory ++ name ≠ "" := by simp [hd]
    exact node_eq_ok_iff.mpr ⟨found, resolve_eq_ok_iff.mpr ⟨hne, hshort, hw⟩, hn⟩

theorem getLast?_of_cons {rest : List String} (hn : name ≠ ".")
    (hl : (name :: rest).getLast? = some ".") : rest.getLast? = some "." := by
  rw [List.getLast?_cons, Option.some.injEq] at hl
  cases hr : rest.getLast? with
  | none =>
    rw [hr] at hl
    exact absurd hl hn
  | some last =>
    rw [hr] at hl
    exact congrArg some hl

/-- A walk whose last name is `.` ends at a directory. -/
theorem walk_here {links : Nat} {follow : Bool} {names : List String} {found : NodeId}
    (hl : names.getLast? = some ".") (h : walk tree follow links base names = .ok found) :
    ∃ parent entries, tree.nodes[found]? = some (.directory parent entries) := by
  fun_induction walk tree follow links base names
  case case1 => cases hl
  case case2 base rest parent entries hb ih =>
    cases hr : rest with
    | nil =>
      rw [hr, walk] at h
      obtain rfl := Except.ok.inj h
      exact ⟨parent, entries, hb⟩
    | cons second later =>
      rw [hr, List.getLast?_cons_cons] at hl
      exact ih (hr ▸ hl) h
  case case3 hn ih => exact ih (getLast?_of_cons hn hl) h
  case case6 rest parent entries hb hn hup hlong entry hf target ht hend =>
    -- the link itself is reached at the end of the path only
    have hrest := getLast?_of_cons hn hl
    simp_all
  case case8 rest parent entries hb hn hup hlong entry hf target ht hend left ih =>
    have hrest := getLast?_of_cons hn hl
    exact ih (by rw [List.getLast?_append, hrest]; rfl) h
  case case9 hn hup hlong entry hf ht ih => exact ih (getLast?_of_cons hn hl) h
  all_goals cases h

theorem namesOf_here : (namesOf (directory ++ "/.")).getLast? = some "." := by
  have hlist : (directory ++ "/.").toList = directory.toList ++ '/' :: ['.'] := by simp
  have hend : (directory ++ "/.").endsWith "/" = false := by
    rw [Bool.eq_false_iff, Ne, endsWith_slash_iff, hlist]
    simp
  have hfields : Text.fields '/' (.ofList ['.']) = ["."] := by decide
  simp [namesOf, hend, Text.fields_of_toList hlist, hfields]

theorem node_here {path : String} {node : Node} (hl : (namesOf path).getLast? = some ".")
    (h : tree.node base path = .ok node) : ∃ parent entries, node = .directory parent entries := by
  obtain ⟨found, hf, hn⟩ := node_eq_ok_iff.mp h
  obtain ⟨-, -, hw⟩ := resolve_eq_ok_iff.mp hf
  obtain ⟨parent, entries, hd⟩ := walk_here hl hw
  exact ⟨parent, entries, Option.some.inj (hn.symm.trans hd)⟩

end Machine.FileTree

end PipeShell
