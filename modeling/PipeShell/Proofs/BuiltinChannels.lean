import PipeShell.Proofs.DirectoryChange
import PipeShell.Proofs.StageReports

/-!
# The channels of a built-in

Main statement: while the terminal does not fail, the code of a built-in is 0 and the error channel
gets nothing, or it is 1 and only the error channel gets something. Whether or not the terminal
fails, `exit` alone ends the session, `cd` alone moves the shell, and neither says a word then.
-/
namespace PipeShell.Builtin

open ShellM

variable {σ δ : Type} {host : Host σ} {directory : σ → δ} {kind : Builtin} {args : List String}

def runLog (host : Host σ) (kind : Builtin) (args : List String) (s : ShellState σ) : List Act :=
  (afterwards (run host.traced kind args s.traced)).world.log

section Answer

variable {s after : ShellState (Traced σ)} {code : Int32}

theorem written_of_said {log : List Act} {words : List Utterance} (h : said log = words)
    (channel : Channel) : written channel log = words.filterMap (Utterance.taken? channel) := by
  rw [written, h]

theorem toUTF8_newline_ne_empty (text : String) : (text ++ "\n").toUTF8 ≠ ByteArray.empty := by
  intro h
  have hsize := congrArg ByteArray.size h
  simp at hsize

theorem Answer.channels (h : Answer host directory kind s code after) (hs : said s.world.log = [])
    (hq : faults after.world.log = []) :
    (code = 0 ∧ written .err after.world.log = []) ∨
    (code = 1 ∧ (∃ text ∈ written .err after.world.log, text ≠ ByteArray.empty) ∧
      written .out after.world.log = []) := by
  cases h with
  | ended hk =>
    have hnone := written_of_said hs .err
    exact .inl ⟨rfl, hnone⟩
  | @moved path _ hk hm =>
    have hsaid : said (s.world.log ++ [.moved path (.ok ())]) = [] := by
      rw [said, List.filterMap_append]
      exact List.append_eq_nil_iff.mpr ⟨hs, rfl⟩
    exact .inl ⟨rfl, written_of_said hsaid .err⟩
  | told hspoke =>
    have hsaid := hspoke.said
    rw [hs, List.nil_append] at hsaid
    have herr := written_of_said hsaid .err
    refine .inl ⟨rfl, ?_⟩
    rw [herr, List.filterMap_map, List.filterMap_eq_nil_iff]
    intro text _
    rfl
  | @failed reason _ hspoke =>
    have hsaid := hspoke.said
    rw [hs, List.nil_append] at hsaid
    have herr := written_of_said hsaid .err
    have hout := written_of_said hsaid .out
    refine .inr ⟨rfl, ⟨(reason ++ "\n").toUTF8, ?_, toUTF8_newline_ne_empty reason⟩, hout⟩
    rw [herr]
    exact List.mem_cons_self
  | @lost text fault _ hspoke =>
    -- output that is lost is a fault of the terminal
    have hsaid := hspoke.said
    have hfault : fault ∈ faults after.world.log := by
      rw [faults, hsaid]
      exact List.mem_filterMap.mpr ⟨.wrote .out text (.error fault), by simp, rfl⟩
    rw [hq] at hfault
    cases hfault

theorem Answer.status_eq (h : Answer host directory kind s code after) : after.status = s.status := by
  cases h with
  | ended hk => rfl
  | moved hk hm => rfl
  | told hs => exact hs.status
  | failed hs => exact hs.status
  | lost hs => exact hs.status

theorem Answer.running_eq (h : Answer host directory kind s code after) :
    after.running = s.running ∨
      kind = .exit ∧ code = 0 ∧ after.running = false ∧ said after.world.log = said s.world.log := by
  cases h with
  | ended hk => exact .inr ⟨hk, rfl, rfl, rfl⟩
  | moved hk hm => exact .inl rfl
  | told hs => exact .inl hs.running
  | failed hs => exact .inl hs.running
  | lost hs => exact .inl hs.running

theorem Answer.directory_eq (h : Answer host directory kind s code after) :
    directory after.world.world = directory s.world.world ∨
      kind = .cd ∧ code = 0 ∧ said after.world.log = said s.world.log := by
  cases h with
  | ended hk => exact .inl rfl
  | moved hk hm =>
    refine .inr ⟨hk, rfl, ?_⟩
    rw [said, List.filterMap_append]
    exact List.append_nil _
  | told hs => exact .inl hs.directory
  | failed hs => exact .inl hs.directory
  | lost hs => exact .inl hs.directory

end Answer

/-- A built-in does on its host what it does on the traced one. -/
theorem run_answers (hd : host.KeepsDirectory directory) (kind : Builtin) (args : List String)
    (s : ShellState σ) :
    Ends (run host kind args s)
      (fun code after => ∃ t, Answer host directory kind s.traced code t ∧
        ShellState.Alike (fun t w => t.world = w) t after ∧ runLog host kind args s = t.world.log)
      (fun fault after => ∃ t, Broke directory s.traced fault t ∧
        ShellState.Alike (fun t w => t.world = w) t after ∧ runLog host kind args s = t.world.log) := by
  have ha := host.traced_alike.builtin kind args s.traced_alike
  have he := hd.builtin_answers (s := s.traced) kind args
  unfold runLog
  generalize run host.traced kind args s.traced = result at ha he ⊢
  generalize run host kind args s = result' at ha ⊢
  cases ha with
  | ok code halike => exact ⟨_, he, halike, rfl⟩
  | error fault halike => exact ⟨_, he, halike, rfl⟩

theorem afterwards_printLine (host : Host σ) (channel : Channel) (text : String) (code : Int32)
    (s : ShellState σ) :
    afterwards ((printLine host channel text >>= fun _ => pure code) s) =
      { s with world := (host.write channel (text ++ "\n").toUTF8 s.world).2 } := by
  change afterwards (EStateM.bind (printLine host channel text) (fun _ => pure code) s) = _
  unfold EStateM.bind printLine print onWorld
  generalize host.write channel (text ++ "\n").toUTF8 s.world = written
  obtain ⟨answer, w⟩ := written
  cases answer with
  | ok _ => rfl
  | error fault => rfl

/-- On arguments that are refused or that ask for help a built-in writes one line. -/
theorem afterwards_run_of_stop {stop : OptionStop} (h : kind.grammar.read args = .error stop) :
    ∃ channel bytes, ∀ {ρ : Type} (host : Host ρ) (s : ShellState ρ),
      afterwards (run host kind args s) = { s with world := (host.write channel bytes s.world).2 } := by
  unfold run
  rw [h]
  cases stop with
  | help text => exact ⟨.out, _, fun host s => afterwards_printLine host .out _ 0 s⟩
  | refused cause => exact ⟨.err, _, fun host s => afterwards_printLine host .err _ 1 s⟩

theorem run_stopped (hd : host.KeepsDirectory directory) {stop : OptionStop}
    (h : kind.grammar.read args = .error stop) (s : ShellState σ) :
    directory (afterwards (run host kind args s)).world = directory s.world ∧
    ∃ channel bytes answer, runLog host kind args s = [.said (.wrote channel bytes answer)] ∧
      afterwards (run host kind args s) =
        { s with world := (host.write channel bytes s.world).2 } := by
  obtain ⟨channel, bytes, hw⟩ := afterwards_run_of_stop h
  have hafter := hw host s
  have hlog : runLog host kind args s =
      [.said (.wrote channel bytes (host.write channel bytes s.world).1)] := by
    rw [runLog, hw host.traced s.traced]
    rfl
  refine ⟨?_, channel, bytes, _, hlog, hafter⟩
  rw [hafter]
  exact hd.write channel bytes s.world

/-- What a built-in does, given what it asked of its host. -/
structure Contained (host : Host σ) (directory : σ → δ) (kind : Builtin) (args : List String)
    (s : ShellState σ) (result : EStateM.Result Fault (ShellState σ) Int32) (log : List Act) :
    Prop where
  /-- While the terminal does not fail, the code is 0 or 1 and tells which channel was used. -/
  channels : faults log = [] → ∃ code after, result = .ok code after ∧ (code = 0 ∨ code = 1) ∧
    (code = 0 ↔ written .err log = []) ∧
    (code = 1 ↔ ∃ text ∈ written .err log, text ≠ ByteArray.empty) ∧
    (code = 1 → written .out log = [])
  status : (afterwards result).status = s.status
  running : (afterwards result).running ≠ s.running → kind = .exit ∧
    (∃ after, result = .ok 0 after ∧ after.running = false) ∧ said log = []
  moved : directory (afterwards result).world ≠ directory s.world → kind = .cd ∧
    (∃ after, result = .ok 0 after) ∧ said log = []
  /-- Arguments that are refused or that ask for help: one text is written, and that is all. -/
  stopped {stop : OptionStop} : kind.grammar.read args = .error stop →
    directory (afterwards result).world = directory s.world ∧
    ∃ channel bytes answer, log = [.said (.wrote channel bytes answer)] ∧
      afterwards result = { s with world := (host.write channel bytes s.world).2 }

/-- Built-ins keep to their channels and touch only what is theirs. -/
theorem run_contained (hd : host.KeepsDirectory directory) (kind : Builtin) (args : List String)
    (s : ShellState σ) :
    Contained host directory kind args s (run host kind args s) (runLog host kind args s) := by
  have hstop {stop : OptionStop} (h : kind.grammar.read args = .error stop) :=
    run_stopped hd h s
  have hends := run_answers hd kind args s
  have hnone : said s.traced.world.log = [] := rfl
  generalize run host kind args s = result at hends hstop ⊢
  generalize runLog host kind args s = log at hends hstop ⊢
  cases result with
  | ok code after =>
    obtain ⟨t, hanswer, halike, rfl⟩ := hends
    refine ⟨fun hq => ⟨code, after, rfl, ?_⟩, ?_, fun hr => ?_, fun hm => ?_, hstop⟩
    · rcases hanswer.channels hnone hq with ⟨rfl, herr⟩ | ⟨rfl, herr, hout⟩
      · simp [herr]
      · have hsome : written .err t.world.log ≠ [] := by
          obtain ⟨text, hmem, -⟩ := herr
          exact List.ne_nil_of_mem hmem
        simp [herr, hout, hsome]
    · exact halike.status.symm.trans hanswer.status_eq
    · change after.running ≠ s.running at hr
      rw [← halike.running] at hr
      rcases hanswer.running_eq with hsame | ⟨hk, rfl, hoff, hsaid⟩
      · exact absurd hsame hr
      · exact ⟨hk, ⟨after, rfl, halike.running.symm.trans hoff⟩, hsaid⟩
    · change directory after.world ≠ directory s.world at hm
      rw [← halike.world] at hm
      rcases hanswer.directory_eq with hsame | ⟨hk, rfl, hsaid⟩
      · exact absurd hsame hm
      · exact ⟨hk, ⟨after, rfl⟩, hsaid⟩
  | error fault after =>
    obtain ⟨t, hbroke, halike, rfl⟩ := hends
    have hfault := hbroke.faults
    obtain ⟨words, last, hspoke, -⟩ := hbroke
    refine ⟨fun hq => ?_, ?_, fun hr => ?_, fun hm => ?_, hstop⟩
    · rw [hq] at hfault
      cases hfault
    · exact halike.status.symm.trans hspoke.status
    · exact absurd (halike.running.symm.trans hspoke.running) hr
    · have hsame : directory after.world = directory s.world := by
        rw [← halike.world]
        exact hspoke.directory
      exact absurd hsame hm

/-- A target that leads somewhere moves nothing beside a request for help. -/
theorem run_cd_help_contained :
    Machine.host.KeepsDirectory Machine.directory ∧
    (Machine.host.changeDirectory "sub" Shell.crossroads).1 = .ok () ∧
    (afterwards (run Machine.host .cd ["sub", "--help"] { world := Shell.crossroads })).world.directory =
      Shell.crossroads.directory := by
  refine ⟨Machine.host_keepsDirectory, by cbv, ?_⟩
  have hcontained := run_contained Machine.host_keepsDirectory .cd ["sub", "--help"]
    { world := Shell.crossroads }
  have hhelp : Builtin.cd.grammar.read ["sub", "--help"] = .error (.help Builtin.cd.helpText) := by
    decide +kernel
  exact (hcontained.stopped hhelp).1

end PipeShell.Builtin
