import PipeShell.Proofs.DumpModes
import PipeShell.Proofs.RunRequests

/-!
# The report of a line

Main statement: while the terminal does not fail, a line that is run as processes opens its streams
once, and then the error channel gets one notice for each stage that never ran and nothing else, or
the processes were given up and the output gets one message. Any other line opens no streams and
starts nothing.
-/
namespace PipeShell

variable {σ : Type}

def Utterance.taken? (channel : Channel) : Utterance → Option ByteArray
  | wrote target bytes (.ok _) => if target = channel then some bytes else none
  | wrote _ _ (.error _) | flushed _ _ => none

def written (channel : Channel) (log : List Act) : List ByteArray :=
  (said log).filterMap (Utterance.taken? channel)

/-- The host without what engages it: no streams are opened and nothing is started. -/
def Host.disengaged (host : Host σ) : Host (Traced σ) :=
  { host.traced with
    openStreams := fun t => (.error .notText, t)
    start := fun _ t => (.error .notText, t) }

theorem Host.disengaged_preserves (host : Host σ) (acts : List Act) :
    host.disengaged.Preserves fun t => engaged t.log = acts := by
  have hnoted {log : List Act} {act : Act} (hl : engaged log = acts) (ha : act.engages = false) :
      engaged (log ++ [act]) = acts := by
    rw [engaged_append, hl, engaged, List.filter_singleton, ha]
    exact List.append_nil acts
  refine { openStreams := ?_, openPipe := ?_, close := ?_, start := ?_, wait := ?_,
           changeDirectory := ?_, write := ?_, flush := ?_ }
  · exact fun ht => ht
  · exact fun _ _ ht => hnoted ht rfl
  · exact fun _ _ ht => hnoted ht rfl
  · exact fun _ _ ht => ht
  · exact fun _ _ ht => hnoted ht rfl
  · exact fun _ _ ht => hnoted ht rfl
  · exact fun _ _ _ ht => hnoted ht rfl
  · exact fun _ _ ht => hnoted ht rfl

namespace Shell

open ShellM

variable {host : Host σ} {settings : Settings} {line : String} {pipeline : Pipeline}
  {s : ShellState σ}

/-- The line is this pipeline, and it is run as processes. -/
def RunsProcesses (settings : Settings) (line : String) (pipeline : Pipeline) : Prop :=
  Pipeline.ofLine settings.maxCommands line = .ok pipeline ∧ settings.dump ≠ .only ∧
    pipeline.builtin? = none

theorem RunsProcesses.executed (h : RunsProcesses settings line pipeline) :
    executed? settings line = some pipeline :=
  executed?_eq_some_iff.mpr ⟨h.1, fun hd => absurd hd h.2.1⟩

theorem RunsProcesses.not_isLone (h : RunsProcesses settings line pipeline) (kind : Builtin) :
    ¬ pipeline.IsLone kind.name := by
  intro hl
  have hk := Pipeline.builtin?_eq_some_iff.mpr hl
  rw [h.2.2] at hk
  cases hk

theorem runsProcesses_of_executed (hx : executed? settings line = some pipeline)
    (hb : pipeline.builtin? = none) : RunsProcesses settings line pipeline := by
  obtain ⟨hp, hexit⟩ := executed?_eq_some_iff.mp hx
  refine ⟨hp, fun hd => ?_, hb⟩
  have hk : pipeline.builtin? = some .exit := Pipeline.builtin?_eq_some_iff.mpr (hexit hd)
  rw [hb] at hk
  cases hk

/-- Such a line does not use what the disengaged host lacks. -/
theorem runLine_disengaged (h : ∀ pipeline, ¬ RunsProcesses settings line pipeline) :
    runLine host.traced settings line = runLine host.disengaged settings line := by
  -- in each case what is left asks only for what the two hosts share
  cases hp : Pipeline.ofLine settings.maxCommands line with
  | error cause =>
    rw [runLine_refused hp, runLine_refused hp]
    rfl
  | ok pipeline =>
    cases hx : executed? settings line with
    | none =>
      rw [runLine_shown hp hx, runLine_shown hp hx]
      rfl
    | some executed =>
      cases hb : executed.builtin? with
      | none => exact absurd (runsProcesses_of_executed hx hb) (h executed)
      | some kind =>
        rw [runLine_executed hx, runLine_executed hx, carryOut_builtin hb, carryOut_builtin hb]
        rfl

theorem engaged_of_not_processes (h : ∀ pipeline, ¬ RunsProcesses settings line pipeline) :
    engaged (lineLog host settings line s) = [] := by
  have hfresh : engaged s.traced.world.log = [] := rfl
  have hend := (host.disengaged_preserves []).alike.runLine settings line (.same hfresh)
  rw [lineLog, runLine_disengaged h]
  exact hend.afterwards.world.2

theorem runsProcesses_announced (h : RunsProcesses settings line pipeline) :
    announcement? settings pipeline =
      if settings.dump = .beforeRunning then some pipeline.dump else none := by
  have hexit : ¬ isLoneExit pipeline := fun he => h.not_isLone .exit (isLoneExit_iff.mp he)
  unfold announcement?
  cases hd : settings.dump with
  | off => simp
  | beforeRunning => simp [hexit]
  | only => exact absurd hd h.2.1

/-! ### What is written -/

def preface (settings : Settings) (pipeline : Pipeline) : List ByteArray :=
  if settings.dump = .beforeRunning then [(pipeline.dump ++ "\n").toUTF8] else []

/-- What is written of a stage, if it never ran. -/
def notice? (stage : StageEnd) : Option String :=
  match stage.ending with
  | .notFound => some ("dsh: " ++ stage.name ++ ": command not found\n")
  | .notExecutable => some ("dsh: " ++ stage.name ++ ": cannot execute\n")
  | .exited _ | .signaled _ => none

theorem notice?_eq (stage : StageEnd) :
    notice? stage =
      if stage.ending.neverRan then some (complaint stage ++ "\n") else none := by
  obtain ⟨position, name, ending⟩ := stage
  cases ending with
  | exited code => rfl
  | signaled signal => rfl
  | notFound =>
    change _ = some ("dsh: " ++ name ++ ": " ++ "command not found" ++ "\n")
    rw [String.append_assoc, String.append_assoc]
    rfl
  | notExecutable =>
    change _ = some ("dsh: " ++ name ++ ": " ++ "cannot execute" ++ "\n")
    rw [String.append_assoc, String.append_assoc]
    rfl

theorem notices_eq (stages : List StageEnd) :
    stages.filterMap notice? =
      (stages.filter fun stage => stage.ending.neverRan).map fun stage => complaint stage ++ "\n" := by
  induction stages with
  | nil => rfl
  | cons stage rest ih =>
    rw [List.filterMap_cons, List.filter_cons, notice?_eq, ih]
    cases stage.ending.neverRan with
    | true => rfl
    | false => rfl

theorem length_notices (stages : List StageEnd) :
    (stages.filterMap notice?).length = stages.countP fun stage => stage.ending.neverRan := by
  rw [notices_eq, List.length_map, List.countP_eq_length_filter]

theorem taken_announced (h : RunsProcesses settings line pipeline) :
    (announced settings pipeline).filterMap (Utterance.taken? .out) = preface settings pipeline ∧
      (announced settings pipeline).filterMap (Utterance.taken? .err) = [] := by
  unfold announced preface
  rw [runsProcesses_announced h]
  split
  · exact ⟨rfl, rfl⟩
  · exact ⟨rfl, rfl⟩

theorem taken_closing_ok (completion : Completion) :
    (closing (.ok completion)).filterMap (Utterance.taken? .err) =
        (completion.stages.filterMap notice?).map String.toUTF8 ∧
      (closing (.ok completion)).filterMap (Utterance.taken? .out) = [] := by
  rw [notices_eq, closing, Completion.neverRan]
  generalize (completion.stages.filter fun stage => stage.ending.neverRan) = missing
  induction missing with
  | nil => exact ⟨rfl, rfl⟩
  | cons stage rest ih =>
    obtain ⟨herr, hout⟩ := ih
    refine ⟨?_, hout⟩
    rw [List.map_cons, List.map_cons, List.map_cons, ← herr]
    rfl

theorem taken_closing_error (cause : Aborted) :
    (closing (.error cause)).filterMap (Utterance.taken? .err) = [] ∧
      (closing (.error cause)).filterMap (Utterance.taken? .out) =
        [(abortNotice cause).toUTF8] :=
  ⟨rfl, rfl⟩

/-! ### What a line that is run as processes does -/

theorem engaged_conclude (host : Host σ) (result : Except Aborted Completion)
    (t : ShellState (Traced σ)) :
    engaged (afterwards (conclude host.traced result t)).world.log = engaged t.world.log := by
  have hend := (host.disengaged_preserves (engaged t.world.log)).alike.conclude result (.same rfl)
  have hterminal : host.traced.toTerminal = host.disengaged.toTerminal := rfl
  rw [conclude_of_terminal hterminal]
  exact hend.afterwards.world.2

theorem announced_engaged {told : ShellState (Traced σ)} {t : Traced σ}
    (ha : announce host.traced settings pipeline s.traced = .ok () told)
    (hf : host.traced.flush .out told.world = (.ok (), t)) :
    told.world.world = (afterwards (announce host settings pipeline s)).world ∧
      engaged t.log = [] := by
  have hsame := (host.traced_alike.announce settings pipeline s.traced_alike).afterwards.world
  rw [ha] at hsame
  have hfresh : engaged s.traced.world.log = [] := rfl
  have hquiet := (host.disengaged_preserves []).alike.announce settings pipeline (.same hfresh)
  have htold : engaged told.world.log = [] := by
    have hend := hquiet.afterwards.world.2
    rwa [show announce host.disengaged settings pipeline s.traced = .ok () told from ha] at hend
  have hflushed : engaged (host.traced.flush .out told.world).2.log = [] :=
    (host.disengaged_preserves []).flush .out htold
  rw [hf] at hflushed
  exact ⟨hsame, hflushed⟩

theorem lineLog_of_processes (h : RunsProcesses settings line pipeline)
    (hq : faults (lineLog host settings line s) = []) :
    ∃ (t : Traced σ),
      let ran := runStages host.traced.toSystem (stagesOf host.toSystem
        (afterwards (announce host settings pipeline s)).world pipeline) t
      engaged t.log = [] ∧
      engaged (lineLog host settings line s) = engaged ran.2.log ∧
      endOf? host settings line s = some (.processes ran.1) ∧
      said (lineLog host settings line s) =
        announced settings pipeline ++ .flushed .out (.ok ()) :: closing ran.1 ∧
      (afterLine host settings s line).status = statusAfter ran.1 := by
  obtain ⟨after, hc, hafter, hlog⟩ := course_of_untroubled hq
  cases hc with
  | refused hp _ => cases h.1.symm.trans hp
  | shown _ hx _ => cases h.executed.symm.trans hx
  | builtin hx _ _ _ _ =>
    obtain rfl := Option.some.inj (h.executed.symm.trans hx)
    exact absurd ⟨_, rfl⟩ (h.not_isLone _)
  | @processes found result spoken hx hb he hs =>
    obtain rfl := Option.some.inj (h.executed.symm.trans hx)
    obtain ⟨pipeline', told, t, hx', -, ha, hf, hr⟩ := endOf?_eq_processes he
    obtain rfl := Option.some.inj (hx.symm.trans hx')
    obtain ⟨hworld, ht⟩ := announced_engaged ha hf
    have hstages : stagesOf host.traced.toSystem told.world pipeline = stagesOf host.toSystem
        (afterwards (announce host settings pipeline s)).world pipeline := by
      rw [← hworld]
      exact host.traced_alike.stagesOf rfl pipeline
    -- the names are looked up after the announcement, and the traced host finds what the host finds
    rw [hstages] at hr
    subst hr
    rw [endOf?_traced] at he
    refine ⟨t, ht, ?_, he, ?_, hafter.status.symm⟩
    · rw [lineLog, runLine_executed hx, bind_of_ok ha, carryOut_processes hb, hstages,
        runProcesses_of_flush hf]
      exact engaged_conclude host _ _
    · rw [hlog]
      exact hs.said

/-- While the terminal does not fail, a line that is run as processes opens its streams once. If the
run comes to an end, the error channel gets a notice for each stage that no start succeeded for, in
the order of the pipeline, and the output gets nothing of it; if the run is given up, the output
gets one message. Other lines open no streams and start nothing, whatever the terminal does. -/
theorem runLine_report (host : Host σ) (settings : Settings) (line : String) (s : ShellState σ) :
    let log := lineLog host settings line s
    (∀ pipeline, RunsProcesses settings line pipeline → faults log = [] →
      ∃ (result : Except Aborted Completion) (answer : Except Fault OuterStreams)
        (starts : List Start),
        endOf? host settings line s = some (.processes result) ∧
        engaged log = .openedStreams answer :: starts.map Start.act ∧
        (∀ cause, answer = .error cause ↔ result = .error (.streams cause)) ∧
        (∀ cause, answer = .error cause → starts = []) ∧
        (∀ completion, result = .ok completion →
          StagesCame 1 (stagesOf host.toSystem
            (afterwards (announce host settings pipeline s)).world pipeline)
            starts completion.stages ∧
          (completion.stages.map fun stage => stage.name) =
            (pipeline.commands.map fun command => command.name) ∧
          written .err log = (completion.stages.filterMap notice?).map String.toUTF8 ∧
          (written .err log).length + starts.countP Start.succeeded = pipeline.length ∧
          written .out log = preface settings pipeline ∧
          (afterLine host settings s line).status = completion.status) ∧
        (∀ cause, result = .error cause →
          written .err log = [] ∧
          written .out log = preface settings pipeline ++ [(abortNotice cause).toUTF8] ∧
          (afterLine host settings s line).status = 1)) ∧
    ((∀ pipeline, ¬ RunsProcesses settings line pipeline) → engaged log = []) := by
  intro log
  refine ⟨fun pipeline h hq => ?_, engaged_of_not_processes⟩
  obtain ⟨t, ht, hlog, hend, hsaid, hstatus⟩ := lineLog_of_processes h hq
  obtain ⟨answer, starts, hacts, hanswer, hclosed, hcame⟩ := runStages_engaged host
    (stagesOf host.toSystem (afterwards (announce host settings pipeline s)).world pipeline) t
  generalize (runStages host.traced.toSystem _ t).1 = result at hend hsaid hstatus hanswer hcame
  have hengaged : engaged log = .openedStreams answer :: starts.map Start.act := by
    rw [hlog, hacts, ht, List.nil_append]
  obtain ⟨hout, herr⟩ := taken_announced h
  have hwritten (channel : Channel) : written channel log =
      (announced settings pipeline).filterMap (Utterance.taken? channel) ++
        (closing result).filterMap (Utterance.taken? channel) := by
    rw [written, hsaid, List.filterMap_append]
    rfl
  refine ⟨result, answer, starts, hend, hengaged, hanswer, hclosed, fun completion hc => ?_,
    fun cause hc => ?_⟩
  · subst hc
    obtain ⟨hnotices, hnothing⟩ := taken_closing_ok completion
    have hstages := hcame completion rfl
    have hreport : written .err log = (completion.stages.filterMap notice?).map String.toUTF8 := by
      rw [hwritten, herr, hnotices, List.nil_append]
    refine ⟨hstages, ?_, hreport, ?_, ?_, hstatus⟩
    · rw [hstages.names, stagesOf, List.map_map]
      rfl
    · have hcount := hstages.count
      rw [hreport, List.length_map, length_notices, hcount, stagesOf, List.length_map]
      rfl
    · rw [hwritten, hout, hnothing, List.append_nil]
  · subst hc
    obtain ⟨hnothing, hmessage⟩ := taken_closing_error cause
    refine ⟨?_, ?_, hstatus⟩
    · rw [hwritten, herr, hnothing, List.append_nil]
    · rw [hwritten, hout, hmessage]

/-- A machine with a program that exits with 127, one that exits with 0, and a file of mode 755
that is no program. -/
def oddTools : Machine where
  tree := ⟨#[.directory Machine.FileTree.root [("bin", 1)],
    .directory Machine.FileTree.root [("quit", 2), ("fine", 3), ("junk", 4)],
    .file 0o755 (.tool "quit"), .file 0o755 (.tool "fine"), .file 0o755 (.bytes "junk".toUTF8)]⟩
  directory := Machine.FileTree.root
  searchPath := some "/bin"
  launch := Machine.Loader.launcher (fun name _ _ => .done (if name = "quit" then 127 else 0)) 1

/-- A missing name and a file that is no program are reported, although the line ends with status 0;
the program that exits with 127 is not. -/
theorem runLine_report_oddTools :
    let host := Host.ofParts Machine.host.toSystem Screen.terminal
    let s : ShellState (Machine × Screen) := { world := (oddTools, {}) }
    let log := lineLog host {} "ghost | junk | quit | fine" s
    written .err log =
      ["dsh: ghost: command not found\n".toUTF8, "dsh: junk: cannot execute\n".toUTF8] ∧
    written .out log = [] ∧
    (afterLine host {} s "ghost | junk | quit | fine").status = 0 := by
  intro host s log
  have hruns : RunsProcesses {} "ghost | junk | quit | fine"
      ⟨⟨"ghost", []⟩, [⟨"junk", []⟩, ⟨"quit", []⟩, ⟨"fine", []⟩]⟩ :=
    ⟨by cbv, by decide, by decide⟩
  have hq : faults log = [] :=
    (untroubled_of_takes Machine.host.toSystem {} Screen.terminal_takes
      ["ghost | junk | quit | fine"] (s := s) ⟨rfl, rfl⟩).1
  have hends : endOf? host {} "ghost | junk | quit | fine" s =
      some (.processes (.ok ⟨[⟨1, "ghost", .notFound⟩, ⟨2, "junk", .notExecutable⟩,
        ⟨3, "quit", .exited 127⟩, ⟨4, "fine", .exited 0⟩]⟩)) := by
    cbv
  obtain ⟨result, answer, starts, he, -, -, -, hok, -⟩ :=
    (runLine_report host {} "ghost | junk | quit | fine" s).1 _ hruns hq
  obtain rfl : result = .ok _ := LineEnd.processes.inj (Option.some.inj (he.symm.trans hends))
  obtain ⟨-, -, herr, -, hout, hstatus⟩ := hok _ rfl
  have hghost : "dsh: " ++ "ghost" ++ ": command not found\n" =
      "dsh: ghost: command not found\n" := by decide
  have hjunk : "dsh: " ++ "junk" ++ ": cannot execute\n" = "dsh: junk: cannot execute\n" := by
    decide
  rw [← hghost, ← hjunk]
  exact ⟨herr, hout, hstatus⟩

end Shell

end PipeShell
