import Mathlib
import PipeShell.Proofs.LineExecution
import PipeShell.Proofs.ProgramSearch

/-!
# What a name refers to

A plain name is searched for in the directories of the search path, and the first runnable file wins.
A name with a slash is a path that only has to exist, unless nothing but slashes and dots stand behind
its first part: then they might as well be missing, and that part is searched for.
-/
namespace PipeShell

namespace Text

variable {separator : Char} {text : String} {parts : List String}

/-- The texts between the separators of a text: none of them has a separator in it, and with one
between each two they make up the text. -/
structure Parts (separator : Char) (parts : List String) (text : String) : Prop where
  ne_nil : parts ≠ []
  plain : ∀ part ∈ parts, separator ∉ part.toList
  joined : String.intercalate separator.toString parts = text

theorem fieldsOf_eq_splitOn (cs : List Char) : fieldsOf separator cs = cs.splitOn separator := by
  induction cs with
  | nil => rfl
  | cons c rest ih =>
    obtain ⟨field, fields, hf⟩ := List.exists_cons_of_ne_nil (List.splitOn_ne_nil separator rest)
    rw [List.splitOn] at ih hf ⊢
    rw [List.splitOnP_cons_eq_if_modifyHead, fieldsOf, ih, hf]
    by_cases hc : c = separator <;> simp [hc]

theorem notMem_of_mem_fieldsOf {cs field : List Char} (hf : field ∈ fieldsOf separator cs) :
    separator ∉ field := by
  induction cs generalizing field with
  | nil => simp_all [fieldsOf]
  | cons c rest ih =>
    obtain ⟨head, fields, hr⟩ := List.exists_cons_of_ne_nil (fieldsOf_ne_nil separator rest)
    rw [hr] at ih
    by_cases hc : c = separator
    · rw [fieldsOf, if_pos hc, hr] at hf
      rcases List.mem_cons.mp hf with rfl | hm
      · exact List.not_mem_nil
      · exact ih hm
    · rw [fieldsOf, if_neg hc, hr] at hf
      rcases List.mem_cons.mp hf with rfl | hm
      · exact List.not_mem_cons_of_ne_of_not_mem (Ne.symm hc) (ih List.mem_cons_self)
      · exact ih (List.mem_cons_of_mem _ hm)

theorem toList_intercalate_separator (parts : List String) :
    (String.intercalate separator.toString parts).toList =
      [separator].intercalate (parts.map String.toList) := by
  rw [String.toList_intercalate, Char.toString_eq_singleton, String.toList_singleton]

theorem parts_fields (separator : Char) (text : String) :
    Parts separator (fields separator text) text where
  ne_nil := by simpa [fields] using fieldsOf_ne_nil separator text.toList
  plain part hp := by
    obtain ⟨field, hf, rfl⟩ := List.mem_map.mp hp
    rw [String.toList_ofList]
    exact notMem_of_mem_fieldsOf hf
  joined := by
    have hmap : (fields separator text).map String.toList = text.toList.splitOn separator := by
      rw [fields, fieldsOf_eq_splitOn, List.map_map]
      simp [Function.comp_def]
    rw [← String.toList_inj, toList_intercalate_separator, hmap, List.intercalate_splitOn]

theorem fields_of_parts (h : Parts separator parts text) : fields separator text = parts := by
  have hplain : ∀ part ∈ parts.map String.toList, separator ∉ part := by
    intro part hp
    obtain ⟨whole, hw, rfl⟩ := List.mem_map.mp hp
    exact h.plain whole hw
  have hne : parts.map String.toList ≠ [] := by simpa using h.ne_nil
  rw [fields, fieldsOf_eq_splitOn, ← h.joined, toList_intercalate_separator,
    List.splitOn_intercalate separator hplain hne, List.map_map]
  simp [Function.comp_def]

/-- A text has its parts in one way only. -/
theorem parts_iff : Parts separator parts text ↔ parts = fields separator text :=
  ⟨fun h => (fields_of_parts h).symm, fun h => h ▸ parts_fields separator text⟩

end Text

namespace Lookup

variable {σ : Type} {system : System σ} {world : σ} {searchPath name path : String}

/-- A regular file, links followed, with at least one of its three execute bits. -/
def Runnable (system : System σ) (world : σ) (path : String) : Prop :=
  ∃ info, system.fileInfo world path = some info ∧ info.regular = true ∧
    ∃ bit ∈ [0, 3, 6], info.mode.testBit bit = true

/-- In the first of the directories that has a runnable file of this name, that file has this path. -/
def FoundFirst (system : System σ) (world : σ) (directories : List String) (name path : String) :
    Prop :=
  ∃ (i : Nat) (directory : String), directories[i]? = some directory ∧ path = join directory name ∧
    Runnable system world path ∧
    ∀ j < i, ∀ passed, directories[j]? = some passed → ¬ Runnable system world (join passed name)

theorem execute_bits (mode : Nat) :
    mode &&& 0o111 ≠ 0 ↔ ∃ bit ∈ [0, 3, 6], mode.testBit bit = true := by
  have hbits : ∀ bit < 7, Nat.testBit 0o111 bit = true ↔ bit ∈ [0, 3, 6] := by decide
  constructor
  · intro h
    obtain ⟨bit, hb⟩ := Nat.exists_testBit_of_ne_zero h
    rw [Nat.testBit_and, Bool.and_eq_true] at hb
    have hlt : bit < 7 := by
      by_contra hge
      have hpow : 2 ^ 7 ≤ 2 ^ bit := Nat.pow_le_pow_right (by decide) (Nat.not_lt.mp hge)
      have hout : Nat.testBit 0o111 bit = false :=
        Nat.testBit_lt_two_pow (Nat.lt_of_lt_of_le (by decide) hpow)
      exact Bool.false_ne_true (hout.symm.trans hb.2)
    exact ⟨bit, (hbits bit hlt).mp hb.2, hb.1⟩
  · rintro ⟨bit, hm, hb⟩ h
    have hlt : bit < 7 := by fin_cases hm <;> decide
    have hz : (mode &&& 0o111).testBit bit = false := by rw [h, Nat.zero_testBit]
    rw [Nat.testBit_and, hb, (hbits bit hlt).mpr hm] at hz
    cases hz

theorem runnable_iff :
    (system.fileInfo world path).any FileInfo.runnable = true ↔ Runnable system world path := by
  unfold Runnable
  cases system.fileInfo world path with
  | none => simp
  | some info =>
    rw [Option.any_some, FileInfo.runnable, Bool.and_eq_true, bne_iff_ne, execute_bits]
    simp

theorem searchFor_eq_some_iff : searchFor system world searchPath name = some path ↔
    FoundFirst system world (directories searchPath) name path := by
  rw [searchFor, List.find?_map, Option.map_eq_some_iff]
  constructor
  · rintro ⟨directory, hf, rfl⟩
    obtain ⟨hr, i, hi, he, hb⟩ := List.find?_eq_some_iff_getElem.mp hf
    refine ⟨i, directory, List.getElem?_eq_some_iff.mpr ⟨hi, he⟩, rfl, runnable_iff.mp hr, ?_⟩
    intro j hj passed hp hrun
    obtain ⟨hlt, rfl⟩ := List.getElem?_eq_some_iff.mp hp
    have hpassed := hb j hj
    rw [Function.comp_apply, runnable_iff.mpr hrun] at hpassed
    cases hpassed
  · rintro ⟨i, directory, hi, rfl, hr, hb⟩
    obtain ⟨hlt, he⟩ := List.getElem?_eq_some_iff.mp hi
    refine ⟨directory, List.find?_eq_some_iff_getElem.mpr ⟨runnable_iff.mpr hr, i, hlt, he, ?_⟩, rfl⟩
    intro j hj
    have hpassed := hb j hj _ (List.getElem?_eq_getElem (hj.trans hlt))
    rw [← runnable_iff] at hpassed
    simpa using hpassed

theorem searchFor_eq_none_iff : searchFor system world searchPath name = none ↔
    ∀ directory ∈ directories searchPath, ¬ Runnable system world (join directory name) := by
  simp [searchFor, ← runnable_iff]

theorem ofField_eq_here_iff {part : String} : Component.ofField part = .here ↔ part = "." := by
  unfold Component.ofField
  split <;> simp_all

theorem ofField_eq_entry_iff {part entry : String} :
    Component.ofField part = .entry entry ↔ part = entry ∧ part ≠ "." ∧ part ≠ ".." := by
  unfold Component.ofField
  split <;> simp_all

/-- A path that comes to one component is searched for, unless that is the working directory. -/
theorem find?_of_single {part : String} (hc : components name = [Component.ofField part])
    (hd : part ≠ ".") :
    find? system world searchPath name = searchFor system world searchPath part := by
  unfold find?
  rw [hc]
  by_cases hp : part = ".."
  · subst hp
    rfl
  · rw [ofField_eq_entry_iff.mpr ⟨rfl, hd, hp⟩]

theorem find?_of_plain (hs : '/' ∉ name.toList) (hn : name ≠ "") (hd : name ≠ ".") :
    find? system world searchPath name = searchFor system world searchPath name :=
  find?_of_single (components_of_notMem hs hn) hd

theorem target_of_not_builtin (hb : ∀ kind : Builtin, name ≠ kind.name) :
    (∀ path, target system world searchPath name = .external path ↔
      find? system world searchPath name = some path) ∧
    (target system world searchPath name = .unknown ↔
      find? system world searchPath name = none) := by
  have hnone : Builtin.ofName? name = none := by
    rw [Option.eq_none_iff_forall_ne_some]
    exact fun kind hk => hb kind (Builtin.ofName?_eq_some_iff.mp hk)
  unfold target
  rw [hnone]
  cases find? system world searchPath name <;> simp

/-- A plain name refers to the first runnable file of that name in the directories of the search
path, and to nothing if there is none; the names of the built-ins refer to those in any case. -/
theorem target_of_plain (system : System σ) (world : σ) (searchPath : String) {name : String}
    (hs : '/' ∉ name.toList) (hn : name ≠ "") (hd : name ≠ ".") :
    (∃! directories, Text.Parts ':' directories searchPath) ∧
    ∀ directories, Text.Parts ':' directories searchPath →
      (∀ path, find? system world searchPath name = some path ↔
        FoundFirst system world directories name path) ∧
      (find? system world searchPath name = none ↔
        ∀ directory ∈ directories, ¬ Runnable system world (join directory name)) ∧
      (∀ kind : Builtin, target system world searchPath name = .builtin kind ↔ name = kind.name) ∧
      ((∀ kind : Builtin, name ≠ kind.name) →
        (∀ path, target system world searchPath name = .external path ↔
          FoundFirst system world directories name path) ∧
        (target system world searchPath name = .unknown ↔
          ∀ path, ¬ FoundFirst system world directories name path)) := by
  have hfind : find? system world searchPath name = searchFor system world searchPath name :=
    find?_of_plain hs hn hd
  refine ⟨⟨_, Text.parts_fields ':' searchPath, fun _ h => Text.parts_iff.mp h⟩, ?_⟩
  rintro elements hp
  obtain rfl := Text.parts_iff.mp hp
  refine ⟨fun path => hfind ▸ searchFor_eq_some_iff, hfind ▸ searchFor_eq_none_iff,
    fun kind => Shell.target_builtin_iff, fun hb => ?_⟩
  refine ⟨fun path => ((target_of_not_builtin hb).1 path).trans (hfind ▸ searchFor_eq_some_iff), ?_⟩
  rw [(target_of_not_builtin hb).2, Option.eq_none_iff_forall_ne_some, hfind]
  exact forall_congr' fun path => not_congr searchFor_eq_some_iff

/-- A machine with one program, in the directory `bin`. Before it on the search path stand a file that
may not be executed, a link to nothing and a directory, all of the same name; behind it, a link to
it. -/
def shadowedTool : Machine where
  tree := ⟨#[.directory Machine.FileTree.root
      [("text", 1), ("lost", 2), ("nest", 3), ("bin", 4), ("more", 5)],
    .directory Machine.FileTree.root [("tool", 6)], .directory Machine.FileTree.root [("tool", 7)],
    .directory Machine.FileTree.root [("tool", 8)], .directory Machine.FileTree.root [("tool", 9)],
    .directory Machine.FileTree.root [("tool", 10)], .file 0o644 (.tool "tool"), .link "/nowhere",
    .directory 3 [], .file 0o010 (.tool "tool"), .link "../bin/tool"]⟩
  directory := Machine.FileTree.root
  searchPath := some ":text:/lost:nest/:bin:more"
  launch _ _ _ := .error .tryAgain

theorem target_of_plain_shadowed :
    FoundFirst Machine.host.toSystem shadowedTool ["", "text", "/lost", "nest/", "bin", "more"]
      "tool" "bin/tool" ∧
    Runnable Machine.host.toSystem shadowedTool "more/tool" ∧
    target Machine.host.toSystem shadowedTool ":text:/lost:nest/:bin:more" "tool" =
      .external "bin/tool" := by
  have hparts : Text.Parts ':' ["", "text", "/lost", "nest/", "bin", "more"]
      ":text:/lost:nest/:bin:more" := Text.parts_iff.mpr (by cbv)
  have hfound : find? Machine.host.toSystem shadowedTool ":text:/lost:nest/:bin:more" "tool" =
      some "bin/tool" := by cbv
  have hmore : Runnable Machine.host.toSystem shadowedTool "more/tool" :=
    ⟨⟨true, 0o010⟩, by cbv, rfl, 3, by decide, by decide⟩
  have hother (kind : Builtin) : "tool" ≠ kind.name := by cases kind <;> decide
  obtain ⟨-, hlaw⟩ := target_of_plain Machine.host.toSystem shadowedTool
    ":text:/lost:nest/:bin:more" (by decide : '/' ∉ "tool".toList) (by decide) (by decide)
  obtain ⟨hfind, -, -, htarget⟩ := hlaw _ hparts
  have hfirst := (hfind "bin/tool").mp hfound
  exact ⟨hfirst, hmore, ((htarget hother).1 _).mpr hfirst⟩

/-! ### Names with a slash -/

/-- A path in its parts, of which all that are empty count for nothing, and all that are `.` except
the first. -/
theorem components_of_parts {first : String} {rest : List String}
    (h : Text.Parts '/' (first :: rest) name) (hn : name ≠ "") :
    components name = (if first = "" then .root else Component.ofField first) ::
      (rest.map Component.ofField).filter fun c => c ≠ .here && c ≠ .entry "" := by
  have hfields := Text.fields_of_parts h
  have hempty : name.isEmpty = false := by simpa using hn
  unfold components
  rw [hfields, List.map_cons]
  by_cases hf : first = ""
  · subst hf
    simp [Component.ofField, hempty]
  · have hentry : Component.ofField first ≠ .entry "" := fun he =>
      hf (ofField_eq_entry_iff.mp he).1
    -- `hentry` rules out the pattern of a path from the root
    simp only [hf, if_false]

theorem ignored_iff {parts : List String} :
    ((parts.map Component.ofField).filter fun c => c ≠ .here && c ≠ .entry "") = [] ↔
      ∀ part ∈ parts, part = "" ∨ part = "." := by
  rw [List.filter_eq_nil_iff, List.forall_mem_map]
  refine forall₂_congr fun part _ => ?_
  by_cases hd : part = "."
  · simp [hd, Component.ofField]
  · simp only [Bool.and_eq_true, decide_eq_true_eq, ne_eq, ofField_eq_here_iff,
      ofField_eq_entry_iff]
    simp only [hd, not_false_eq_true, true_and, not_not, or_false]
    exact ⟨fun h => h.1, fun h => ⟨h, by simp [h]⟩⟩

/-- The name is one part, neither empty nor `.`, with nothing but slashes and dots behind it. -/
def Trailed (part name : String) : Prop :=
  part ≠ "" ∧ part ≠ "." ∧ ∃ behind, Text.Parts '/' (part :: behind) name ∧
    ∀ later ∈ behind, later = "" ∨ later = "."

/-- What stands behind a single part counts for nothing. -/
theorem find?_of_trailed {part : String} (h : Trailed part name) :
    find? system world searchPath name = find? system world searchPath part := by
  obtain ⟨hn, hd, behind, hp, hb⟩ := h
  have hs : '/' ∉ part.toList := hp.plain part List.mem_cons_self
  have hname : name ≠ "" := by
    rintro rfl
    have hfields := Text.fields_of_parts hp
    simp [Text.fields, Text.fieldsOf] at hfields
    exact hn hfields.1
  have hc : components name = [Component.ofField part] := by
    rw [components_of_parts hp hname, if_neg hn, ignored_iff.mpr hb]
  rw [find?_of_single hc hd, find?_of_plain hs hn hd]

theorem find?_of_not_trailed (hs : '/' ∈ name.toList) (ht : ∀ part, ¬ Trailed part name) :
    find? system world searchPath name =
      if (system.fileInfo world name).isSome then some name else none := by
  obtain ⟨first, behind, hf⟩ := List.exists_cons_of_ne_nil (Text.parts_fields '/' name).ne_nil
  have hp : Text.Parts '/' (first :: behind) name := hf ▸ Text.parts_fields '/' name
  have hname : name ≠ "" := by
    rintro rfl
    cases hs
  have hc := components_of_parts hp hname
  -- a single component that is neither the root nor the working directory is that of a trailed part
  have hsingle (c : Component) (h : components name = [c]) : c = .root ∨ c = .here := by
    rw [hc, List.cons.injEq, ignored_iff] at h
    obtain ⟨rfl, hb⟩ := h
    by_cases hn : first = ""
    · exact .inl (if_pos hn)
    · by_cases hd : first = "."
      · exact .inr ((if_neg hn).trans (ofField_eq_here_iff.mpr hd))
      · exact absurd ⟨hn, hd, behind, hp, hb⟩ (ht first)
  unfold find?
  split
  · next h => simp [hc] at h
  · next h => simpa using hsingle _ h
  · next h => simpa using hsingle _ h
  · rfl

/-- A name with a slash is looked up as its one part where only slashes and dots stand behind that,
and is else taken as it is, whatever the search path. -/
theorem find?_of_slash (system : System σ) (world : σ) {name : String} (hs : '/' ∈ name.toList) :
    (∀ part, Trailed part name → ∀ searchPath,
      find? system world searchPath name = find? system world searchPath part) ∧
    ((∀ part, ¬ Trailed part name) → ∀ searchPath,
      find? system world searchPath name =
        if (system.fileInfo world name).isSome then some name else none) :=
  ⟨fun _ ht _ => find?_of_trailed ht, fun ht _ => find?_of_not_trailed hs ht⟩

/-- Slashes and a dot behind the name of the program change nothing; with its directory before it the
name is a path, and no search path is needed. -/
theorem find?_of_slash_tool :
    find? Machine.host.toSystem shadowedTool "bin" "tool//." = some "bin/tool" ∧
    find? Machine.host.toSystem shadowedTool "" "bin/tool" = some "bin/tool" := by
  have htrailed : Trailed "tool" "tool//." :=
    ⟨by decide, by decide, ["", "."], Text.parts_iff.mpr (by cbv), by decide⟩
  have hpath (part : String) : ¬ Trailed part "bin/tool" := by
    rintro ⟨-, -, behind, hp, hb⟩
    have hparts : part :: behind = ["bin", "tool"] := (Text.parts_iff.mp hp).trans (by cbv)
    obtain ⟨-, rfl⟩ := List.cons_eq_cons.mp hparts
    exact absurd (hb "tool" List.mem_cons_self) (by decide)
  obtain ⟨hsearched, -⟩ :=
    find?_of_slash Machine.host.toSystem shadowedTool (by decide : '/' ∈ "tool//.".toList)
  obtain ⟨-, htaken⟩ :=
    find?_of_slash Machine.host.toSystem shadowedTool (by decide : '/' ∈ "bin/tool".toList)
  rw [hsearched "tool" htrailed, htaken hpath]
  refine ⟨?_, ?_⟩ <;> cbv

/-- There is no file at the name with a slash, and yet a file is found for it, or none, as the search
path says. -/
theorem tool_slash_is_searched :
    '/' ∈ "tool/".toList ∧ (shadowedTool.fileInfo "tool/").isSome = false ∧
    find? Machine.host.toSystem shadowedTool "bin" "tool/" = some "bin/tool" ∧
    find? Machine.host.toSystem shadowedTool "" "tool/" = none := by
  refine ⟨by decide, ?_, ?_, ?_⟩ <;> cbv

end Lookup

end PipeShell
