import PipeShell.Proofs.SessionStatus

/-!
# What lines do to the shell itself

Only a built-in that stands alone ends a session or moves the shell. Among several commands the
names of built-ins refer to no program: their stages are not found, and that is reported.
-/
namespace PipeShell

variable {σ δ : Type} {host : Host σ} {directory : σ → δ} {settings : Settings} {line : String}

theorem Builtin.Course.running_eq {kind : Builtin} {code : Int32} {s after : ShellState (Traced σ)}
    (h : Builtin.Course host directory kind s code after) :
    after.running = s.running ∨ kind = .exit ∧ after.running = false := by
  cases h with
  | ended hk => exact .inr ⟨hk, rfl⟩
  | moved hk hm => exact .inl rfl
  | spoke hs => exact .inl hs.running

theorem Builtin.Course.directory_eq {kind : Builtin} {code : Int32}
    {s after : ShellState (Traced σ)} (h : Builtin.Course host directory kind s code after) :
    directory after.world.world = directory s.world.world ∨ kind = .cd ∧ code = 0 := by
  cases h with
  | ended hk => exact .inl rfl
  | moved hk hm => exact .inr ⟨hk, rfl⟩
  | spoke hs => exact .inl hs.directory

namespace Shell

def LoneLine (settings : Settings) (name line : String) : Prop :=
  ∃ pipeline, Pipeline.ofLine settings.maxCommands line = .ok pipeline ∧ pipeline.IsLone name

theorem loneLine_of_executed {name : String} {args : List String}
    (h : executed? settings line = some ⟨⟨name, args⟩, []⟩) : LoneLine settings name line :=
  ⟨_, (executed?_eq_some_iff.mp h).1, args, rfl⟩

/-- What a line may do to the shell: a lone `exit` ends the session, and a lone `cd` that is carried
out with status 0 moves the shell. -/
structure Touched (settings : Settings) (directory : σ → δ) (line : String)
    (s after : ShellState σ) : Prop where
  running : after.running = s.running ∨ after.running = false ∧ LoneLine settings "exit" line
  directory : directory after.world = directory s.world ∨
    LoneLine settings "cd" line ∧ settings.dump ≠ .only ∧ after.status = 0

theorem Course.running_eq {s after : ShellState (Traced σ)}
    (h : Course host directory settings line s after) :
    after.running = s.running ∨ after.running = false ∧ LoneLine settings "exit" line := by
  cases h with
  | refused hp hs => exact .inl hs.running
  | shown hp hx hs => exact .inl hs.running
  | processes hx hb he hs => exact .inl hs.running
  | builtin hx hs he hr hc =>
    rcases hc.running_eq with hsame | ⟨rfl, hended⟩
    · exact .inl (hsame.trans hs.running)
    · exact .inr ⟨hended, loneLine_of_executed hx⟩

theorem Course.directory_eq {s after : ShellState (Traced σ)}
    (h : Course host directory settings line s after) :
    directory after.world.world = directory s.world.world ∨
      LoneLine settings "cd" line ∧ settings.dump ≠ .only ∧ after.status = 0 := by
  cases h with
  | refused hp hs => exact .inl hs.directory
  | shown hp hx hs => exact .inl hs.directory
  | processes hx hb he hs => exact .inl hs.directory
  | builtin hx hs he hr hc =>
    rcases hc.directory_eq with hsame | ⟨rfl, rfl⟩
    · exact .inl (hsame.trans hs.directory)
    · refine .inr ⟨loneLine_of_executed hx, fun hd => ?_, rfl⟩
      -- where lines are only printed, `exit` alone is carried out
      obtain ⟨args, he⟩ := (executed?_eq_some_iff.mp hx).2 hd
      simp [Builtin.name] at he

theorem afterLine_touched (hd : host.KeepsDirectory directory) (s : ShellState σ) :
    Touched settings directory line s (afterLine host settings s line) := by
  have he := runLine_course settings line s hd
  unfold afterLine
  generalize runLine host settings line s = result at he ⊢
  cases result with
  | ok _ after =>
    obtain ⟨t, hc, ha, -⟩ := he
    have hrunning := hc.running_eq
    have hdirectory := hc.directory_eq
    rw [ha.running] at hrunning
    rw [ha.world, ha.status] at hdirectory
    exact ⟨hrunning, hdirectory⟩
  | error fault after =>
    obtain ⟨t, ⟨words, last, hspoke, -⟩, ha, -⟩ := he
    have hdirectory := hspoke.directory
    rw [ha.world] at hdirectory
    exact ⟨.inl (ha.running.symm.trans hspoke.running), .inl hdirectory⟩

theorem Touched.stays {s after : ShellState σ} (h : Touched settings directory line s after)
    (hs : s.running = false) : after.running = false := by
  rcases h.running with hr | ⟨hr, -⟩
  · exact hr.trans hs
  · exact hr

theorem afterLines_ended {lines : List String} {s : ShellState σ} (hs : s.running = false) :
    (afterLines host settings s lines).running = false := by
  induction lines generalizing s with
  | nil => exact hs
  | cons line rest ih => exact ih ((afterLine_touched host.keepsNothing s).stays hs)

theorem afterLines_keeps {α : Type} (read : ShellState σ → α) {lines : List String}
    (h : ∀ line ∈ lines, ∀ s, read (afterLine host settings s line) = read s)
    (s : ShellState σ) : read (afterLines host settings s lines) = read s := by
  induction lines generalizing s with
  | nil => rfl
  | cons line rest ih =>
    have hfirst := h line List.mem_cons_self s
    exact (ih (fun later hm => h later (List.mem_cons_of_mem _ hm)) _).trans hfirst

theorem afterLines_running {lines : List String} {s : ShellState σ}
    (hl : ∀ line ∈ lines, ¬ LoneLine settings "exit" line) :
    (afterLines host settings s lines).running = s.running := by
  refine afterLines_keeps ShellState.running (fun line hm t => ?_) s
  have ht : Touched settings (fun _ => ()) line t (afterLine host settings t line) :=
    afterLine_touched host.keepsNothing t
  exact ht.running.resolve_right fun hr => hl line hm hr.2

theorem afterLines_directory (hd : host.KeepsDirectory directory) {lines : List String}
    {s : ShellState σ} (hl : ∀ line ∈ lines, ¬ LoneLine settings "cd" line) :
    directory (afterLines host settings s lines).world = directory s.world := by
  refine afterLines_keeps (fun t => directory t.world) (fun line hm t => ?_) s
  have ht : Touched settings directory line t (afterLine host settings t line) :=
    afterLine_touched hd t
  exact ht.directory.resolve_right fun hr => hl line hm hr.1

/-! ### Lines with several commands -/

variable {pipeline : Pipeline} {s : ShellState σ}

theorem not_isLone_of_rest {name : String} (hr : pipeline.rest ≠ []) : ¬ pipeline.IsLone name := by
  rintro ⟨args, rfl⟩
  exact hr rfl

theorem not_loneLine_of_rest {name : String}
    (hp : Pipeline.ofLine settings.maxCommands line = .ok pipeline) (hr : pipeline.rest ≠ []) :
    ¬ LoneLine settings name line := by
  rintro ⟨found, hf, hl⟩
  obtain rfl := Except.ok.inj (hp.symm.trans hf)
  exact not_isLone_of_rest hr hl

theorem builtin?_of_rest (hr : pipeline.rest ≠ []) : pipeline.builtin? = none := by
  rw [Option.eq_none_iff_forall_ne_some]
  exact fun kind hk => not_isLone_of_rest hr (Pipeline.builtin?_eq_some_iff.mp hk)

/-- All that a line with several commands does is to print itself and to run processes. -/
theorem runLine_of_rest (hp : Pipeline.ofLine settings.maxCommands line = .ok pipeline)
    (hr : pipeline.rest ≠ []) :
    runLine host settings line = (do
      announce host settings pipeline
      if settings.dump = .only then return ()
      else runProcesses host (stagesOf host.toSystem (← get).world pipeline)) := by
  by_cases hd : settings.dump = .only
  · have hx : executed? settings line = none := by
      rw [Option.eq_none_iff_forall_ne_some]
      intro found hf
      obtain ⟨hf, hl⟩ := executed?_eq_some_iff.mp hf
      obtain rfl := Except.ok.inj (hp.symm.trans hf)
      exact not_isLone_of_rest hr (hl hd)
    rw [runLine_shown hp hx]
    simp [hd]
  · have hx := executed?_eq_some_iff.mpr ⟨hp, fun h => absurd h hd⟩
    rw [runLine_executed hx]
    simp only [hd, if_false]
    refine congrArg _ (funext fun _ => funext fun t => ?_)
    exact carryOut_processes (builtin?_of_rest hr) t

theorem notFound_of_builtin {completion : Completion} {i : Nat} {command : Command}
    {kind : Builtin} (hp : Pipeline.ofLine settings.maxCommands line = .ok pipeline)
    (he : endOf? host settings line s = some (.processes (.ok completion)))
    (hc : pipeline.commands[i]? = some command) (hk : command.name = kind.name) :
    completion.stages[i]? = some ⟨i + 1, command.name, .notFound⟩ := by
  obtain ⟨found, w, hx, hends⟩ := endOf?_ended he
  obtain rfl := Except.ok.inj (hp.symm.trans (executed?_eq_some_iff.mp hx).1)
  have ht : Lookup.target host.toSystem w (Lookup.searchPathOf host.toSystem w) command.name =
      .builtin kind := target_builtin_iff.mpr hk
  have hs : (stagesOf host.toSystem w pipeline)[i]? = some ⟨command, .builtin kind⟩ := by
    rw [stagesOf, List.getElem?_map, hc, Option.map_some, ht]
  obtain ⟨stageEnd, hi, ending, rfl, hn⟩ := Execution.ended_getElem? hends hs
  rw [hi, hn rfl, Nat.add_comm 1 i]

theorem reported_of_completion {completion : Completion} {stage : StageEnd}
    (he : endOf? host settings line s = some (.processes (.ok completion)))
    (hn : stage ∈ completion.neverRan)
    (hw : ∀ bytes fault, .wrote .err bytes (.error fault) ∉ said (lineLog host settings line s)) :
    reported stage ∈ said (lineLog host settings line s) := by
  rw [← endOf?_traced] at he
  obtain ⟨t, ht⟩ := runLine_of_completion he
  have hends : Ends (runLine host.traced settings line s.traced)
      (fun _ after => reported stage ∈ said after.world.log)
      (fun fault after => ∃ bytes, .wrote .err bytes (.error fault) ∈ said after.world.log) := by
    rw [ht]
    have hreport := host.keepsNothing.reportFrom_ends (s := t) completion.neverRan
    refine ends_bind hreport (fun fault after hb => ?_) fun _ after _ hs => ?_
    · obtain ⟨words, bytes, hs⟩ := hb
      exact ⟨bytes, by rw [hs.said]; simp⟩
    · change reported stage ∈ said after.world.log
      rw [hs.said]
      exact List.mem_append_right _ (List.mem_map_of_mem hn)
  unfold lineLog at hw ⊢
  generalize runLine host.traced settings line s.traced = result at hends hw ⊢
  cases result with
  | ok _ after => exact hends
  | error fault after =>
    obtain ⟨bytes, hb⟩ := hends
    exact absurd hb (hw bytes fault)

/-- A line of several commands leaves the shell as it was, and the built-ins among its commands are
not found, whatever the search path holds. -/
structure RunsNoBuiltin (host : Host σ) (settings : Settings) (directory : σ → δ) (line : String)
    (pipeline : Pipeline) (s : ShellState σ) : Prop where
  running : (afterLine host settings s line).running = s.running
  directory : directory (afterLine host settings s line).world = directory s.world
  course : runLine host settings line = (do
    announce host settings pipeline
    if settings.dump = .only then return ()
    else runProcesses host (stagesOf host.toSystem (← get).world pipeline))
  notFound {completion : Completion} {i : Nat} {command : Command} {kind : Builtin} :
    endOf? host settings line s = some (.processes (.ok completion)) →
    pipeline.commands[i]? = some command → command.name = kind.name →
    completion.stages[i]? = some ⟨i + 1, command.name, .notFound⟩
  reported {completion : Completion} {i : Nat} {command : Command} {kind : Builtin} :
    endOf? host settings line s = some (.processes (.ok completion)) →
    pipeline.commands[i]? = some command → command.name = kind.name →
    (∀ bytes fault, .wrote .err bytes (.error fault) ∉ said (lineLog host settings line s)) →
    .wrote .err ("dsh: " ++ command.name ++ ": command not found\n").toUTF8 (.ok ()) ∈
      said (lineLog host settings line s)

theorem runsNoBuiltin_of_rest (hd : host.KeepsDirectory directory)
    (hp : Pipeline.ofLine settings.maxCommands line = .ok pipeline) (hr : pipeline.rest ≠ []) :
    RunsNoBuiltin host settings directory line pipeline s where
  running := (afterLine_touched hd s).running.resolve_right fun h => not_loneLine_of_rest hp hr h.2
  directory :=
    (afterLine_touched hd s).directory.resolve_right fun h => not_loneLine_of_rest hp hr h.1
  course := runLine_of_rest hp hr
  notFound he hc hk := notFound_of_builtin hp he hc hk
  reported {completion i command kind} he hc hk hw := by
    have hi := notFound_of_builtin hp he hc hk
    have hn : ⟨i + 1, command.name, .notFound⟩ ∈ completion.neverRan :=
      List.mem_filter.mpr ⟨List.mem_of_getElem? hi, rfl⟩
    have hsaid := reported_of_completion he hn hw
    have htext : complaint ⟨i + 1, command.name, .notFound⟩ ++ "\n" =
        "dsh: " ++ command.name ++ ": command not found\n" := by
      change "dsh: " ++ command.name ++ ": " ++ "command not found" ++ "\n" = _
      rw [String.append_assoc, String.append_assoc]
      rfl
    rwa [Shell.reported, htext] at hsaid

/-- Over a whole session only a lone `exit` ends it and only a lone `cd` that succeeds moves it,
and a line of several commands does neither. -/
theorem afterLines_touched (hd : host.KeepsDirectory directory) (settings : Settings)
    (s : ShellState σ) (lines : List String) :
    (s.running = false → (afterLines host settings s lines).running = false) ∧
    ((∀ line ∈ lines, ¬ LoneLine settings "exit" line) →
      (afterLines host settings s lines).running = s.running) ∧
    ((∀ line ∈ lines, ¬ LoneLine settings "cd" line) →
      directory (afterLines host settings s lines).world = directory s.world) ∧
    ∀ before line,
      Touched settings directory line (afterLines host settings s before)
        (afterLine host settings (afterLines host settings s before) line) ∧
      ∀ pipeline, Pipeline.ofLine settings.maxCommands line = .ok pipeline → pipeline.rest ≠ [] →
        RunsNoBuiltin host settings directory line pipeline (afterLines host settings s before) :=
  ⟨afterLines_ended, afterLines_running, afterLines_directory hd, fun _ _ =>
    ⟨afterLine_touched hd _, fun _ hp hr => runsNoBuiltin_of_rest hd hp hr⟩⟩

/-- The pipeline `cd | exit` neither moves the shell nor ends the session, and its second command is
reported as not found. -/
theorem afterLines_touched_pipeline :
    (afterLine Machine.host {} { world := emptyMachine } "cd | exit").running = true ∧
    (afterLine Machine.host {} { world := emptyMachine } "cd | exit").world.directory =
      Machine.FileTree.root ∧
    .wrote .err "dsh: exit: command not found\n".toUTF8 (.ok ()) ∈
      said (lineLog Machine.host {} "cd | exit" { world := emptyMachine }) := by
  have hp : Pipeline.ofLine ({} : Settings).maxCommands "cd | exit" =
      .ok ⟨⟨"cd", []⟩, [⟨"exit", []⟩]⟩ := by rfl
  have he : endOf? Machine.host {} "cd | exit" { world := emptyMachine } =
      some (.processes (.ok ⟨[⟨1, "cd", .notFound⟩, ⟨2, "exit", .notFound⟩]⟩)) := by rfl
  have hquiet : faults (lineLog Machine.host {} "cd | exit" { world := emptyMachine }) = [] := by
    decide +kernel
  obtain ⟨-, -, -, hlines⟩ :=
    afterLines_touched Machine.host_keepsDirectory {} { world := emptyMachine } []
  have hnone : RunsNoBuiltin Machine.host {} Machine.directory "cd | exit"
      ⟨⟨"cd", []⟩, [⟨"exit", []⟩]⟩ { world := emptyMachine } :=
    (hlines [] "cd | exit").2 _ hp (List.cons_ne_nil _ _)
  have hc : (⟨⟨"cd", []⟩, [⟨"exit", []⟩]⟩ : Pipeline).commands[1]? = some ⟨"exit", []⟩ := rfl
  have hk : (⟨"exit", []⟩ : Command).name = Builtin.exit.name := rfl
  have hw (bytes : ByteArray) (fault : Fault) : .wrote .err bytes (.error fault) ∉
      said (lineLog Machine.host {} "cd | exit" { world := emptyMachine }) := fun hm => by
    have hfault : fault ∈ faults (lineLog Machine.host {} "cd | exit" { world := emptyMachine }) :=
      List.mem_filterMap.mpr ⟨_, hm, rfl⟩
    rw [hquiet] at hfault
    cases hfault
  have htext : "dsh: " ++ "exit" ++ ": command not found\n" = "dsh: exit: command not found\n" := by
    decide
  have hsaid := hnone.reported he hc hk hw
  simp only [htext] at hsaid
  exact ⟨hnone.running, hnone.directory, hsaid⟩

end Shell

end PipeShell
