import PipeShell.Proofs.LineExecution
import PipeShell.Proofs.MachineDirectory
import PipeShell.Proofs.ProgramSearch

/-!
# The programs of a line

The names of a line are looked up before its first stage is started. While its stages are started no
process runs, so nothing changes on the machine that the search for a program looks at.
-/
namespace PipeShell.Machine

variable {m : Machine} {path : String} {program : Program UInt8}

theorem closeAll_outfit (handles : List Handle) (m : Machine) :
    (Conduits.closeAll host.toSystem handles m).outfit = m.outfit ∧
      (Conduits.closeAll host.toSystem handles m).running = m.running := by
  induction handles generalizing m with
  | nil => exact ⟨rfl, rfl⟩
  | cons handle rest ih => exact ih (m.close handle)

theorem openFrom_outfit (opened : List Conduit) (count : Nat) (m : Machine) :
    (Conduits.openFrom host.toSystem opened count m).2.outfit = m.outfit := by
  induction count generalizing opened m with
  | zero => rfl
  | succ count ih =>
    have ho : (host.openPipe .close m).2.outfit = m.outfit := openPipe_outfit .close m
    rw [Conduits.openFrom]
    split
    · next ends w he =>
      rw [he] at ho
      exact (ih _ w).trans ho
    · next cause w he =>
      rw [he] at ho
      exact ((closeAll_outfit _ w).1).trans ho

def callFor (m : Machine) (command : Command) (process : ProcessId) : Call :=
  ⟨command.name, command.args, m.directory, m.fullEnvironment, process⟩

theorem start_eq_ok {request : StartRequest} {process : ProcessId} {after : Machine}
    (h : m.start request = (.ok process, after)) :
    hasNul request.path = false ∧
    ∃ program input output errors,
      Loader.launchByName m.launch m.searchPath request.path
        (m.callFor ⟨request.name, request.args⟩ process) m.tree = .ok program ∧
      after.running = m.running ++ [(process, ⟨program, input, output, errors⟩)] := by
  unfold start at h
  split at h
  · cases h
  · next hn =>
    simp only at h
    split at h
    · cases h
    · next program hp =>
      simp only [Prod.mk.injEq, Except.ok.injEq] at h
      obtain ⟨rfl, rfl⟩ := h
      refine ⟨?_, program, _, _, _, hp, rfl⟩
      simp only [Bool.or_eq_true, not_or] at hn
      exact Bool.eq_false_iff.mpr hn.1.1

theorem start_eq_error {request : StartRequest} {cause : Fault} {after : Machine}
    (h : m.start request = (.error cause, after)) : after = m := by
  unfold start at h
  split at h
  · exact (congrArg Prod.snd h).symm
  · simp only at h
    split at h
    · exact (congrArg Prod.snd h).symm
    · cases h

/-- What became of a command that was launched: it runs the program of the file that its name
referred to, or it ended as not found or not executable. -/
inductive Launches (m : Machine) (running : List (ProcessId × Process)) (command : Command) :
    Execution.Attempt → Prop
  | ended {ending : Ending} : ending = .notFound ∨ ending = .notExecutable →
    Launches m running command (.ended ending)
  | running {path : String} {program : Program UInt8} {process : ProcessId}
      {input output errors : Stream} :
    Lookup.target host.toSystem m (Lookup.searchPathOf host.toSystem m) command.name =
      .external path →
    (process, ⟨program, input, output, errors⟩) ∈ running →
    m.RunsFile path (m.callFor command process) program →
    Launches m running command (.running process)

theorem find?_of_target {σ : Type} {system : System σ} {world : σ} {searchPath name : String}
    (h : Lookup.target system world searchPath name = .external path) :
    Lookup.find? system world searchPath name = some path := by
  unfold Lookup.target at h
  split at h
  · cases h
  · split at h
    · next found hf =>
      obtain rfl : found = path := by simpa using h
      exact hf
    · cases h

theorem Launches.mono {running running' : List (ProcessId × Process)} {command : Command}
    {attempt : Execution.Attempt} (h : m.Launches running command attempt)
    (hr : running ⊆ running') : m.Launches running' command attempt := by
  cases h with
  | ended he => exact .ended he
  | running ht hm hf => exact .running ht (hr hm) hf

section Stages

variable {tools : Loader.Tools} {depth : Nat} (hl : m.launch = Loader.launcher tools depth)
  (hn : hasNul (Lookup.searchPathOf host.toSystem m) = false)

def stageOf (m : Machine) (command : Command) : Stage :=
  ⟨command, Lookup.target host.toSystem m (Lookup.searchPathOf host.toSystem m) command.name⟩

include hl hn in
theorem runsFile_of_start {command : Command} {input output : Option Handle} {process : ProcessId}
    {w after : Machine} (hw : w.outfit = m.outfit)
    (ht : (m.stageOf command).target = .external path)
    (hs : w.start ⟨path, command.name, command.args, input, output⟩ = (.ok process, after)) :
    after.outfit = m.outfit ∧ w.running ⊆ after.running ∧
      m.Launches after.running command (.running process) := by
  obtain ⟨hp, program, read, written, errors, hlaunch, hr⟩ := start_eq_ok hs
  have ho : after.outfit = w.outfit := by
    rw [← start_outfit ⟨path, command.name, command.args, input, output⟩ w, hs]
  obtain ⟨htree, hdirectory, hsearch, henvironment, hlauncher⟩ :
      w.tree = m.tree ∧ w.directory = m.directory ∧ w.searchPath = m.searchPath ∧
        w.environment = m.environment ∧ w.launch = m.launch := by
    simpa [outfit] using hw
  have hcall : w.callFor command process = m.callFor command process := by
    simp only [callFor, fullEnvironment, hdirectory, hsearch, henvironment]
  rw [show w.callFor _ process = _ from hcall, htree, hsearch, hlauncher] at hlaunch
  have hf := runsFile_of_launchByName hl hn (find?_of_target ht) hp rfl hlaunch
  have hm : (process, ⟨program, read, written, errors⟩) ∈ after.running := by
    rw [hr]
    exact List.mem_append_right _ List.mem_cons_self
  refine ⟨ho.trans hw, ?_, .running ht hm hf⟩
  rw [hr]
  exact List.subset_append_left _ _

include hl hn in
theorem startStage_launches (command : Command) (input output : Option Handle) {w : Machine}
    (hw : w.outfit = m.outfit) {result : Except Fault Execution.Attempt} {after : Machine}
    (h : Execution.startStage host.toSystem (m.stageOf command) input output w = (result, after)) :
    after.outfit = m.outfit ∧ w.running ⊆ after.running ∧
      ∀ attempt, result = .ok attempt → m.Launches after.running command attempt := by
  unfold Execution.startStage at h
  simp only [Prod.mk.injEq] at h
  obtain ⟨hresult, hafter⟩ := h
  obtain ⟨ho, hr⟩ := closeAll_outfit (input.toList ++ output.toList) _
  rw [hafter] at ho hr
  rw [ho, hr]
  subst hresult
  cases ht : (m.stageOf command).target with
  | builtin kind => exact ⟨hw, List.Subset.refl _, fun _ ha => by cases ha; exact .ended (.inl rfl)⟩
  | unknown => exact ⟨hw, List.Subset.refl _, fun _ ha => by cases ha; exact .ended (.inl rfl)⟩
  | external path =>
    simp only [stageOf]
    cases hs : host.start ⟨path, command.name, command.args, input, output⟩ w with
    | mk answer started =>
      cases answer with
      | ok process =>
        obtain ⟨ho, hsub, hlaunches⟩ := runsFile_of_start hl hn hw ht hs
        exact ⟨ho, hsub, fun _ ha => by cases ha; exact hlaunches⟩
      | error cause =>
        obtain rfl := start_eq_error hs
        cases he : Execution.endingOfFault cause with
        | some ending =>
          simp only [he]
          exact ⟨hw, List.Subset.refl _, fun _ ha => by
            cases ha
            exact .ended (Execution.endingOfFault_eq_some he)⟩
        | none =>
          simp only [he]
          exact ⟨hw, List.Subset.refl _, fun _ ha => by cases ha⟩

include hl hn in
theorem startFrom_launches (last index : Nat) (plumbing : Execution.Plumbing)
    (commands : List Command) {w : Machine} (hw : w.outfit = m.outfit)
    {started : Execution.Started Machine}
    (h : Execution.startFrom host.toSystem last index plumbing w (commands.map m.stageOf) =
      started) :
    w.running ⊆ started.world.running ∧
    ∀ (i : Nat) (name : String) (attempt : Execution.Attempt),
      started.launched[i]? = some (name, attempt) →
      ∃ command, commands[i]? = some command ∧
        m.Launches started.world.running command attempt := by
  subst h
  induction commands generalizing index plumbing w with
  | nil => exact ⟨List.Subset.refl _, fun i name attempt hi => by cases hi⟩
  | cons command rest ih =>
    simp only [List.map_cons, Execution.startFrom]
    split
    · next cause after hs =>
      obtain ⟨-, hsub, -⟩ := startStage_launches hl hn command _ _ hw hs
      exact ⟨hsub, fun i name attempt hi => by cases hi⟩
    · next launch after hs =>
      obtain ⟨ho, hsub, hfirst⟩ := startStage_launches hl hn command _ _ hw hs
      obtain ⟨hsub', hlater⟩ := ih (index + 1) _ ho
      refine ⟨List.Subset.trans hsub hsub', fun i name attempt hi => ?_⟩
      cases i with
      | zero =>
        obtain ⟨-, rfl⟩ := Prod.mk.inj (Option.some.inj hi)
        exact ⟨command, rfl, (hfirst _ rfl).mono hsub'⟩
      | succ i => exact hlater i name attempt hi

end Stages

/-- Every command of a line that is launched runs the program of the file that its name referred to
when the line was read, or of one behind it, or it ends as not found or not executable. -/
theorem launches_of_run {tools : Loader.Tools} {depth : Nat}
    (hl : m.launch = Loader.launcher tools depth)
    (hn : hasNul (Lookup.searchPathOf host.toSystem m) = false) (pipeline : Pipeline)
    {outer : OuterStreams} {pipes : Conduits} {opened ready : Machine}
    (ho : host.openStreams m = (.ok outer, opened))
    (hp : Conduits.openFor host.toSystem pipeline.length opened = (.ok pipes, ready))
    {started : Execution.Started Machine}
    (hs : Execution.startFrom host.toSystem (pipeline.length - 1) 0
      ⟨some outer.input, some outer.output, pipes⟩ ready
      (Shell.stagesOf host.toSystem m pipeline) = started) :
    ∀ (i : Nat) (name : String) (attempt : Execution.Attempt),
      started.launched[i]? = some (name, attempt) →
      ∃ command, pipeline.commands[i]? = some command ∧
        m.Launches started.world.running command attempt := by
  have hopened : opened.outfit = m.outfit := by
    have h := openStreams_outfit m
    rwa [show m.openStreams = _ from ho] at h
  have hready : ready.outfit = opened.outfit := by
    have h := openFrom_outfit [] (pipeline.length - 1) opened
    rwa [show Conduits.openFrom _ _ _ _ = _ from hp] at h
  exact (startFrom_launches hl hn _ _ _ pipeline.commands (hready.trans hopened) hs).2

/-- A machine with two files of one name. The one in the working directory, which comes first on the
search path, is a script whose interpreter does not exist. -/
def scriptFirst : Machine where
  tree := ⟨#[.directory FileTree.root [("tool", 1), ("bin", 2)],
    .file 0o755 (.bytes "#!/nonexistent/interpreter\n".toUTF8),
    .directory FileTree.root [("tool", 3)], .file 0o755 (.tool "tool")]⟩
  directory := FileTree.root
  searchPath := some ":/bin"
  launch := Loader.launcher (fun _ _ _ => .done 7) 1

theorem launches_of_run_scriptFirst :
    scriptFirst.Launches [(1000, ⟨.done 7, .nothing, .captured, .nothing⟩)] ⟨"tool", []⟩
      (.running 1000) := by
  have hl : scriptFirst.launch = Loader.launcher (fun _ _ _ => .done 7) 1 := rfl
  have hn : hasNul (Lookup.searchPathOf host.toSystem scriptFirst) = false := by cbv
  obtain ⟨command, hc, hlaunches⟩ := launches_of_run hl hn ⟨⟨"tool", []⟩, []⟩ rfl rfl rfl 0 "tool"
    (.running 1000) (by cbv)
  obtain rfl := Option.some.inj hc
  refine hlaunches.mono ?_
  cbv
  exact fun _ hm => hm

/-- The name refers to the script, which gives no program, and yet the line ends with the status of
the other file. -/
theorem scriptFirst_runs_behind :
    Lookup.target host.toSystem scriptFirst (Lookup.searchPathOf host.toSystem scriptFirst) "tool" =
      .external "tool" ∧
    scriptFirst.launch "tool" (scriptFirst.callFor ⟨"tool", []⟩ 1000) scriptFirst.tree =
      .error .noSuchEntry ∧
    scriptFirst.launch "/bin/tool" (scriptFirst.callFor ⟨"tool", []⟩ 1000) scriptFirst.tree =
      .ok (.done 7) ∧
    Shell.endOf? host {} "tool" { world := scriptFirst } =
      some (.processes (.ok ⟨[⟨1, "tool", .exited 7⟩]⟩)) := by
  refine ⟨?_, ?_, ?_, ?_⟩ <;> cbv

end PipeShell.Machine
