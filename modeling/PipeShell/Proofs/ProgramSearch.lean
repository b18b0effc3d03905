import PipeShell.Machine.System
import PipeShell.Proofs.PathNames
import PipeShell.Shell

/-!
# The program that a name starts

A name is looked up before anything is started, and a path without a slash is searched for once more
when its program is started. The two searches agree as long as the system takes the file that was
found. When it passes that file over, the second search goes on to the directories behind.
-/
namespace PipeShell

namespace Lookup

variable {σ : Type} {system : System σ} {world : σ} {searchPath directory name path : String}

theorem slash_mem_join (hd : directory ≠ "") : '/' ∈ (join directory name).toList := by
  have hempty : directory.isEmpty = false := by simpa using hd
  unfold join
  rw [hempty]
  cases hs : directory.endsWith "/" with
  | false => simp
  | true =>
    have hl := List.mem_of_getLast? (Machine.FileTree.endsWith_slash_iff.mp hs)
    simp [hl]

theorem searchFor_eq_some (h : searchFor system world searchPath name = some path) :
    ∃ before directory after, directories searchPath = before ++ directory :: after ∧
      path = join directory name ∧
      ∀ passed ∈ before, ¬ (system.fileInfo world (join passed name)).any FileInfo.runnable := by
  rw [searchFor, List.find?_map] at h
  obtain ⟨directory, hf, rfl⟩ := Option.map_eq_some_iff.mp h
  obtain ⟨-, before, after, hs, hb⟩ := List.find?_eq_some_iff_append.mp hf
  exact ⟨before, directory, after, hs, rfl, fun passed hp => by simpa using hb passed hp⟩

theorem components_of_notMem (hs : '/' ∉ name.toList) (hn : name ≠ "") :
    components name = [Component.ofField name] := by
  unfold components
  rw [Text.fields_of_notMem hs]
  by_cases hh : name = "."
  · subst hh
    rfl
  · by_cases hp : name = ".."
    · subst hp
      rfl
    · have he : Component.ofField name = .entry name := by
        unfold Component.ofField
        split <;> simp_all
      simp [he, hn]

/-- A file that is found by a path without a slash is the working directory, or it was found where
an element of the search path is empty. -/
theorem find?_of_notMem (h : find? system world searchPath name = some path)
    (hs : '/' ∉ path.toList) :
    path = "." ∨ ∃ before after, directories searchPath = before ++ "" :: after ∧
      ∀ passed ∈ before, ¬ (system.fileInfo world (join passed path)).any FileInfo.runnable := by
  have hsearch (entry : String) (hf : searchFor system world searchPath entry = some path) :
      ∃ before after, directories searchPath = before ++ "" :: after ∧
        ∀ passed ∈ before, ¬ (system.fileInfo world (join passed path)).any FileInfo.runnable := by
    obtain ⟨before, directory, after, hd, rfl, hb⟩ := searchFor_eq_some hf
    have hempty : directory = "" := by
      by_contra hne
      exact hs (slash_mem_join hne)
    subst hempty
    exact ⟨before, after, hd, hb⟩
  unfold find? at h
  split at h
  · cases h
  · exact .inr (hsearch _ h)
  · exact .inr (hsearch _ h)
  · next hnone hparent hentry =>
    split_ifs at h with hf
    obtain rfl := Option.some.inj h
    have hne : name ≠ "" := by
      rintro rfl
      exact hnone rfl
    have hc := components_of_notMem hs hne
    left
    by_contra hdot
    unfold Component.ofField at hc
    split at hc
    · exact hdot rfl
    · exact hparent hc
    · exact hentry _ hc

end Lookup

namespace Machine

namespace Loader

variable {tools : Tools} {depth : Nat} {path : String} {call : Call} {tree : FileTree}
  {launch : Launcher} {refused : Bool} {last : OsError} {program : Program UInt8}

theorem toolFor_eq_ok {found : String × Call} (h : toolFor tree depth path call = .ok found) :
    ∃ mode content, tree.node call.directory path = .ok (.file mode content) ∧
      mode &&& 0o111 ≠ 0 := by
  cases depth with
  | zero => cases h
  | succ depth =>
    rw [toolFor] at h
    split at h
    · cases h
    · next mode content hn =>
      split_ifs at h with hm
      exact ⟨mode, content, hn, hm⟩
    · cases h

theorem launcher_eq_ok (h : launcher tools depth path call tree = .ok program) :
    ∃ mode content, tree.node call.directory path = .ok (.file mode content) ∧
      mode &&& 0o111 ≠ 0 := by
  cases depth with
  | zero => cases h
  | succ depth =>
    simp only [launcher] at h
    split at h
    · cases h
    · next tool told ht => exact toolFor_eq_ok ht

theorem exists_of_launchFirst {paths : List String}
    (h : launchFirst launch call tree refused last paths = .ok program) :
    ∃ path ∈ paths, launch path call tree = .ok program := by
  induction paths generalizing refused last with
  | nil => cases h
  | cons path rest ih =>
    rw [launchFirst] at h
    split at h
    · next started hs => exact ⟨path, List.mem_cons_self, hs.trans h⟩
    · split_ifs at h
      obtain ⟨later, hm, hl⟩ := ih h
      exact ⟨later, List.mem_cons_of_mem _ hm, hl⟩

/-- Behind candidates that give no program the search comes to the next one, and goes on only if
that is passed over. -/
theorem launchFirst_append {before after : List String}
    (hb : ∀ passed ∈ before, ∀ program, launch passed call tree ≠ .ok program)
    (h : launchFirst launch call tree refused last (before ++ path :: after) = .ok program) :
    launch path call tree = .ok program ∨
    ∃ cause, launch path call tree = .error cause ∧ isPassedOver cause = true ∧
      ∃ later ∈ after, launch later call tree = .ok program := by
  induction before generalizing refused last with
  | nil =>
    rw [List.nil_append, launchFirst] at h
    split at h
    · next started hs => exact .inl (hs.trans h)
    · next cause hc =>
      split_ifs at h with hp
      exact .inr ⟨cause, hc, hp, exists_of_launchFirst h⟩
  | cons first rest ih =>
    rw [List.cons_append, launchFirst] at h
    split at h
    · next started hs => exact absurd hs (hb first List.mem_cons_self started)
    · split_ifs at h
      exact ih (fun passed hm => hb passed (List.mem_cons_of_mem _ hm)) h

end Loader

variable {m : Machine} {path : String} {call : Call} {program : Program UInt8}

theorem hasNul_iff {text : String} : hasNul text = true ↔ '\x00' ∈ text.toList := by
  rw [hasNul, String.contains_char_eq, decide_eq_true_iff]

theorem runnable_of_node {mode : Nat} {content : Content} (hn : hasNul path = false)
    (h : m.tree.node m.directory path = .ok (.file mode content)) (hm : mode &&& 0o111 ≠ 0) :
    (m.fileInfo path).any FileInfo.runnable = true := by
  simp [fileInfo, hn, h, Except.toOption, infoOf, FileInfo.runnable, hm]

/-- The program that is started for a path is that of the file at this path. A path without a slash
may also start the file of this name in a directory of the search path, behind an empty element, if
starting the file at the path itself fails in a way that is passed over. -/
inductive RunsFile (m : Machine) (path : String) (call : Call) (program : Program UInt8) : Prop
  | itself : m.launch path call m.tree = .ok program → RunsFile m path call program
  | behind {before after : List String} {directory : String} {cause : OsError} :
    '/' ∉ path.toList →
    Lookup.directories (Lookup.searchPathOf host.toSystem m) = before ++ "" :: after →
    directory ∈ after →
    m.launch path call m.tree = .error cause → Loader.isPassedOver cause = true →
    m.launch (directory ++ "/" ++ path) call m.tree = .ok program →
    RunsFile m path call program

/-- The path of a name in a directory, as programs are searched for. -/
def candidate (name directory : String) : String :=
  if directory.isEmpty then name else directory ++ "/" ++ name

theorem candidate_of_ne {name directory : String} (hd : directory ≠ "") :
    candidate name directory = directory ++ "/" ++ name := by
  simp [candidate, hd]

/-- A directory whose file is not runnable when it is looked up gives no program either. -/
theorem launch_candidate {tools : Loader.Tools} {depth : Nat} {directory : String}
    (hl : m.launch = Loader.launcher tools depth) (hc : call.directory = m.directory)
    (hn : hasNul (Lookup.join directory path) = false)
    (hr : ¬ (m.fileInfo (Lookup.join directory path)).any FileInfo.runnable) :
    m.launch (candidate path directory) call m.tree ≠ .ok program := by
  intro h
  rw [hl] at h
  obtain ⟨mode, content, hnode, hm⟩ := Loader.launcher_eq_ok h
  rw [hc] at hnode
  have hjoin : m.tree.node m.directory (Lookup.join directory path) = .ok (.file mode content) := by
    by_cases hd : directory = ""
    · subst hd
      exact hnode
    · rw [candidate_of_ne hd] at hnode
      exact FileTree.node_join hd hnode
  exact hr (runnable_of_node hn hjoin hm)

theorem launch_here {tools : Loader.Tools} {depth : Nat} {directory : String}
    (hl : m.launch = Loader.launcher tools depth) :
    m.launch (candidate "." directory) call m.tree ≠ .ok program := by
  intro h
  rw [hl] at h
  obtain ⟨mode, content, hnode, hm⟩ := Loader.launcher_eq_ok h
  have hlast : (FileTree.namesOf (candidate "." directory)).getLast? = some "." := by
    by_cases hd : directory = ""
    · subst hd
      decide +kernel
    · rw [candidate_of_ne hd, String.append_assoc]
      exact FileTree.namesOf_here
  obtain ⟨parent, entries, hdir⟩ := FileTree.node_here hlast hnode
  cases hdir

theorem launchByName_of_notMem (hs : '/' ∉ path.toList)
    (h : Loader.launchByName m.launch m.searchPath path call m.tree = .ok program) :
    Loader.launchFirst m.launch call m.tree false .noSuchEntry
      ((Text.fields ':' (m.searchPath.getD Loader.standardSearchPath)).map (candidate path)) =
      .ok program := by
  have hc : path.contains '/' = false := by simpa [String.contains_char_eq] using hs
  simp only [Loader.launchByName, hc, Bool.false_eq_true, if_false] at h
  split_ifs at h
  exact h

theorem fields_of_empty_mem {searchPath : Option String}
    (he : "" ∈ Lookup.directories (searchPath.getD Lookup.defaultSearchPath)) :
    Text.fields ':' (searchPath.getD Loader.standardSearchPath) =
      Lookup.directories (searchPath.getD Lookup.defaultSearchPath) := by
  cases searchPath with
  | none => exact absurd he (by decide)
  | some text => rfl

theorem hasNul_join {searchPath directory : String} (hn : hasNul searchPath = false)
    (hd : directory ∈ Lookup.directories searchPath) (hp : hasNul path = false) :
    hasNul (Lookup.join directory path) = false := by
  rw [Bool.eq_false_iff, Ne, hasNul_iff] at hn hp ⊢
  have hdirectory : '\x00' ∉ directory.toList := by
    intro hm
    obtain ⟨field, hf, rfl⟩ := List.mem_map.mp hd
    rw [String.toList_ofList] at hm
    exact hn (Text.mem_of_mem_fieldsOf hf hm)
  unfold Lookup.join
  split_ifs
  · exact hp
  · simp [hdirectory, hp]
  · simp [hdirectory, hp]

/-- Where a file was found at an empty element, the search for its program comes to it as well. -/
theorem runsFile_of_empty {tools : Loader.Tools} {depth : Nat} {before after : List String}
    (hl : m.launch = Loader.launcher tools depth)
    (hn : hasNul (Lookup.searchPathOf host.toSystem m) = false)
    (hd : Lookup.directories (Lookup.searchPathOf host.toSystem m) = before ++ "" :: after)
    (hb : ∀ passed ∈ before, ¬ (m.fileInfo (Lookup.join passed path)).any FileInfo.runnable)
    (hs : '/' ∉ path.toList) (hp : hasNul path = false) (hc : call.directory = m.directory)
    (h : Loader.launchByName m.launch m.searchPath path call m.tree = .ok program) :
    m.RunsFile path call program := by
  have hfirst := launchByName_of_notMem hs h
  have hempty : "" ∈ Lookup.directories (Lookup.searchPathOf host.toSystem m) := by simp [hd]
  have hfields : Text.fields ':' (m.searchPath.getD Loader.standardSearchPath) =
      before ++ "" :: after := (fields_of_empty_mem hempty).trans hd
  rw [hfields, List.map_append, List.map_cons] at hfirst
  have hbefore : ∀ passed ∈ before.map (candidate path), ∀ program,
      m.launch passed call m.tree ≠ .ok program := by
    intro passed hm program
    obtain ⟨directory, hin, rfl⟩ := List.mem_map.mp hm
    have hjoin : hasNul (Lookup.join directory path) = false :=
      hasNul_join hn (by simp [hd, hin]) hp
    exact launch_candidate hl hc hjoin (hb directory hin)
  rcases Loader.launchFirst_append hbefore hfirst with hitself | ⟨cause, hcause, hpass, hrest⟩
  · exact .itself hitself
  · obtain ⟨later, hm, ht⟩ := hrest
    obtain ⟨directory, hin, rfl⟩ := List.mem_map.mp hm
    have hne : directory ≠ "" := by
      rintro rfl
      have hboth := hcause.symm.trans ht
      cases hboth
    rw [candidate_of_ne hne] at ht
    exact .behind hs hd hin hcause hpass ht

theorem runsFile_of_launchByName {tools : Loader.Tools} {depth : Nat} {name : String}
    (hl : m.launch = Loader.launcher tools depth)
    (hn : hasNul (Lookup.searchPathOf host.toSystem m) = false)
    (hf : Lookup.find? host.toSystem m (Lookup.searchPathOf host.toSystem m) name = some path)
    (hp : hasNul path = false) (hc : call.directory = m.directory)
    (h : Loader.launchByName m.launch m.searchPath path call m.tree = .ok program) :
    m.RunsFile path call program := by
  by_cases hs : '/' ∈ path.toList
  · have hslash : path.contains '/' = true := by simpa [String.contains_char_eq] using hs
    simp only [Loader.launchByName, hslash, if_true] at h
    exact .itself h
  · rcases Lookup.find?_of_notMem hf hs with rfl | ⟨before, after, hd, hb⟩
    · obtain ⟨tried, hm, ht⟩ := Loader.exists_of_launchFirst (launchByName_of_notMem hs h)
      obtain ⟨directory, -, rfl⟩ := List.mem_map.mp hm
      exact absurd ht (launch_here hl)
    · exact runsFile_of_empty hl hn hd hb hs hp hc h

end Machine

end PipeShell
