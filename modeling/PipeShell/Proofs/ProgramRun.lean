import PipeShell.CommandLine
import PipeShell.Proofs.SessionTrace
import PipeShell.Proofs.SourceLines

/-!
# A run of the whole program

The program is a session on the lines of its input between the reading of its options and the
message with the status of the session. Main statement: a session carries out its lines one after
the other up to the first that ends it, says farewell once, and its status is 0 whatever the
statuses of the lines were, so the program ends with exit code 0. The lines are all those of the
input: the processes of a line are taken to leave the input of the shell to the lines after it.
-/
namespace PipeShell

open ShellM

variable {τ σ α : Type} {R : τ → σ → Prop}

theorem ends_tryCatch {s : ShellState σ} {x : ShellM σ α} {f : Fault → ShellM σ α}
    {done : α → ShellState σ → Prop} {broken : Fault → ShellState σ → Prop}
    (broken' : Fault → ShellState σ → Prop) (hx : Ends (x s) done broken')
    (hf : ∀ fault t, broken' fault t → Ends (f fault t) done broken) :
    Ends (tryCatch x f s) done broken := by
  change Ends (EStateM.tryCatch x f s) done broken
  unfold EStateM.tryCatch
  generalize x s = r at hx ⊢
  cases r with
  | ok value t => exact hx
  | error fault t => exact hf fault t hx

theorem ShellM.alike_tryCatch {s : ShellState τ} {s' : ShellState σ} {x : ShellM τ α}
    {y : ShellM σ α} {f : Fault → ShellM τ α} {g : Fault → ShellM σ α}
    (hx : Alike R (x s) (y s'))
    (hf : ∀ fault t t', ShellState.Alike R t t' → Alike R (f fault t) (g fault t')) :
    Alike R (tryCatch x f s) (tryCatch y g s') := by
  change Alike R (EStateM.tryCatch x f s) (EStateM.tryCatch y g s')
  unfold EStateM.tryCatch
  generalize x s = r at hx ⊢
  generalize y s' = r' at hx ⊢
  cases hx with
  | ok value ht => exact .ok value ht
  | error fault ht => exact hf fault _ _ ht

namespace CommandLine

/-- A run under settings as a session that a message follows, or the report of its fault. -/
theorem runLines_eq (host : Host σ) (settings : Settings) (input : ByteArray) :
    runLines host settings input = tryCatch
      (do
        let status ← Shell.loop host settings (LineSource.ofTyping input)
        printLine host .out ("cmd loop returned " ++ toString status)
        pure (exitCodeOf status))
      (fun fault => do
        printLine host .err ("dsh: " ++ faultText fault)
        pure 1) := by
  funext s
  simp only [runLines, tryCatch, tryCatchThe, MonadExceptOf.tryCatch, EStateM.tryCatch, bind,
    EStateM.bind]
  cases Shell.loop host settings (LineSource.ofTyping input) s with
  | error fault t =>
    dsimp only
    generalize printLine host .err ("dsh: " ++ faultText fault) _ = reported
    cases reported <;> rfl
  | ok status t =>
    dsimp only
    cases printLine host .out ("cmd loop returned " ++ toString status) t with
    | ok _ u => rfl
    | error fault u =>
      dsimp only
      generalize printLine host .err ("dsh: " ++ faultText fault) _ = reported
      cases reported <;> rfl

theorem runLines_alike {fine : Host τ} {coarse : Host σ} (h : Host.Alike R fine coarse)
    (settings : Settings) (input : ByteArray) {s : ShellState τ} {s' : ShellState σ}
    (hs : s.Alike R s') :
    ShellM.Alike R (runLines fine settings input s) (runLines coarse settings input s') := by
  rw [runLines_eq, runLines_eq]
  refine alike_tryCatch ?_ fun fault t t' ht => ?_
  · refine alike_bind (h.loop settings _ hs) fun status t t' ht => ?_
    exact alike_bind (h.printLine .out _ ht) fun _ _ _ hu => alike_pure _ hu
  · exact alike_bind (h.printLine .err _ ht) fun _ _ _ hu => alike_pure _ hu

def programLog (host : Host σ) (args : List String) (input : ByteArray) (s : ShellState σ) :
    List Act :=
  (afterwards (run host.traced args input s.traced)).world.log

def summaryActs : List Act := [.said (.wrote .out "cmd loop returned 0\n".toUTF8 (.ok ()))]

variable {host : Host σ} {settings : Settings} {lines : List String} {input : ByteArray}

theorem run_of_accepted {args : List String} {values : OptionValues}
    (ha : grammar.read args = .ok values) (hm : 1 ≤ (settingsOf values).maxCommands) :
    run host args input = runLines host (settingsOf values) input := by
  have hc : (settingsOf values).check = .ok (settingsOf values) := if_neg (by omega)
  unfold run
  rw [ha]
  simp only [hc]

theorem runLines_traced (host : Host σ) (settings : Settings)
    (hi : LineSource.ofTyping input = lines.map .ok)
    (s : ShellState (Traced σ)) :
    Ends (runLines host.traced settings input s)
      (fun code after => faults after.world.log = [] → code = 0 ∧ ∃ looped,
        Shell.loop host.traced settings (lines.map .ok) s = .ok 0 looped ∧
        after = { looped with world :=
          ⟨(host.write .out "cmd loop returned 0\n".toUTF8 looped.world.world).2,
            looped.world.log ++ summaryActs⟩ })
      (fun fault after => fault ∈ faults after.world.log) := by
  rw [runLines_eq]
  refine ends_tryCatch (fun fault after => fault ∈ faults after.world.log) ?_ fun fault t ht => ?_
  · rw [hi]
    refine ends_bind (Shell.loop_traced host settings lines s) (fun _ _ hb => hb)
      fun status looped hl hd => ?_
    obtain ⟨rfl, -⟩ := hd
    have htext : "cmd loop returned " ++ toString (0 : Int32) ++ "\n" =
        "cmd loop returned 0\n" := by
      decide
    have hprint := Shell.printLine_traced host .out ("cmd loop returned " ++ toString (0 : Int32))
      looped
    rw [htext] at hprint
    refine ends_bind hprint (fun _ _ hb => hb) fun _ after _ hp _ => ⟨rfl, looped, hl, hp⟩
  · -- the fault that was caught has been noted
    refine ends_bind (Shell.printLine_traced host .err _ t) (fun _ _ hb => hb)
      fun _ after _ hp hq => ?_
    subst hp
    have hfault : fault ∈ faults (t.world.log ++
        [.said (.wrote .err ("dsh: " ++ faultText fault ++ "\n").toUTF8 (.ok ()))]) := by
      unfold faults said at ht ⊢
      rw [List.filterMap_append, List.filterMap_append]
      exact List.mem_append_left _ ht
    have hnone : fault ∈ ([] : List Fault) := hq ▸ hfault
    cases hnone

/-- While the terminal does not fail, the program comes to the end of its session, says so, and its
exit code is 0. -/
theorem run_of_quiet {args : List String} {values : OptionValues} {s : ShellState σ}
    (hi : LineSource.ofTyping input = lines.map .ok) (ha : grammar.read args = .ok values)
    (hm : 1 ≤ (settingsOf values).maxCommands) (hq : faults (programLog host args input s) = []) :
    ∃ looped after, Shell.loop host (settingsOf values) (lines.map .ok) s = .ok 0 looped ∧
      run host args input s = .ok 0 after ∧
      after.world = (host.write .out "cmd loop returned 0\n".toUTF8 looped.world).2 ∧
      programLog host args input s =
        Shell.sessionLog host (settingsOf values) (lines.map .ok) s ++ summaryActs := by
  have halike := runLines_alike host.traced_alike (settingsOf values) input s.traced_alike
  have hloop := host.traced_alike.loop (settingsOf values) (lines.map .ok) s.traced_alike
  have hends := runLines_traced host (settingsOf values) hi s.traced
  have hlog : programLog host args input s =
      (afterwards (runLines host.traced (settingsOf values) input s.traced)).world.log := by
    rw [programLog, run_of_accepted ha hm]
  rw [hlog] at hq ⊢
  rw [run_of_accepted ha hm]
  generalize runLines host.traced (settingsOf values) input s.traced = traced at halike hends hq ⊢
  generalize runLines host (settingsOf values) input s = result at halike ⊢
  cases halike with
  | error fault hs =>
    have hfault : fault ∈ ([] : List Fault) := hq ▸ hends
    cases hfault
  | @ok code traced after hs =>
    obtain ⟨rfl, looped, hl, rfl⟩ := hends hq
    rw [hl] at hloop
    have hplain : ∃ looped', Shell.loop host (settingsOf values) (lines.map .ok) s = .ok 0 looped' ∧
        looped.world.world = looped'.world := by
      generalize Shell.loop host (settingsOf values) (lines.map .ok) s = plain at hloop ⊢
      cases hloop with
      | ok _ ht => exact ⟨_, rfl, ht.world⟩
    obtain ⟨looped', hl', hw⟩ := hplain
    refine ⟨looped', after, hl', rfl, ?_, ?_⟩
    · rw [← hs.world, ← hw]
    · rw [Shell.sessionLog, hl]
      rfl

/-- A session on a script does what its lines do one after the other up to the first that ends it,
and then says farewell; a fault of the source or of a line ends it without that. The program is such
a session on the lines of its input, with a message and the exit code 0 after it. -/
theorem loop_refines_lines (host : Host σ) (world : σ) (text : String) :
    let fresh : ShellState σ := { world := world }
    let script := LineSource.ofScript text.toUTF8
    (∀ settings, faults (Shell.sessionLog host settings script fresh) = [] →
      ∃ m last after, Shell.loop host settings script fresh = .ok 0 after ∧
        Shell.Session host settings (LineSource.scriptLines text) fresh m last after) ∧
    (∀ settings before last, Shell.Carries host settings fresh before last → last.running = true →
      let prompts := Shell.promptsAfter settings fresh (before.length + 1)
      (∀ fault later, Shell.loop host settings (before.map .ok ++ .error fault :: later) fresh =
        .error fault (last.withPrompts prompts)) ∧
      ∀ line fault broken later, Shell.runLine host settings line last = .error fault broken →
        Shell.loop host settings (before.map .ok ++ .ok line :: later) fresh =
          .error fault (broken.withPrompts prompts)) ∧
    ∀ args values, grammar.read args = .ok values → 1 ≤ (settingsOf values).maxCommands →
      faults (programLog host args text.toUTF8 fresh) = [] →
      let typed := LineSource.typedLines text
      ∃ m last looped after,
        Shell.loop host (settingsOf values) (typed.map .ok) fresh = .ok 0 looped ∧
        Shell.Session host (settingsOf values) typed fresh m last looped ∧
        run host args text.toUTF8 fresh = .ok 0 after ∧
        after.world = (host.write .out "cmd loop returned 0\n".toUTF8 looped.world).2 ∧
        programLog host args text.toUTF8 fresh =
          Shell.linesLog host (settingsOf values) fresh (typed.take m) ++ Shell.farewellActs ++
            summaryActs := by
  intro fresh script
  refine ⟨fun settings hq => ?_, fun settings before last hc hl => ?_,
    fun args values ha hm hq => ?_⟩
  · have hs : script = (LineSource.scriptLines text).map .ok := LineSource.ofScript_toUTF8 text
    rw [hs] at hq ⊢
    exact Shell.loop_of_quiet hq
  · exact ⟨Shell.loop_of_source_fault hc hl, fun _ _ _ later hb =>
      Shell.loop_of_line_fault hc hl hb later⟩
  · intro typed
    obtain ⟨looped, after, hloop, hrun, hworld, hlog⟩ :=
      run_of_quiet (LineSource.ofTyping_toUTF8 text) ha hm hq
    -- the notes of the program begin with those of its session
    have hsession :
        faults (Shell.sessionLog host (settingsOf values) (typed.map .ok) fresh) = [] := by
      rw [hlog, faults, said, List.filterMap_append, List.filterMap_append] at hq
      exact (List.append_eq_nil_iff.mp hq).1
    obtain ⟨m, last, looped', hloop', hs⟩ := Shell.loop_of_quiet hsession
    obtain rfl : looped = looped' := by
      rw [hloop] at hloop'
      injection hloop'
    exact ⟨m, last, looped, after, hloop, hs, hrun, hworld, hlog.trans (by rw [hs.log])⟩

/-- A `cd` that fails, an `exit` and a line that nobody asks for: the session of the script and a
run of the program on it both end well. A fault of the input after the `cd`, and a screen that takes
no text, end a session at once. -/
theorem loop_refines_lines_exit :
    (∃ m last after, Shell.loop Machine.host {} (LineSource.ofScript "cd a b\nexit\nrc\n".toUTF8)
        { world := Shell.emptyMachine } = .ok 0 after ∧
      Shell.Session Machine.host {} ["cd a b", "exit", "rc"] { world := Shell.emptyMachine }
        m last after) ∧
    (∃ last, Shell.loop Machine.host {} [.ok "cd a b", .error .notText, .ok "rc"]
      { world := Shell.emptyMachine } = .error .notText last) ∧
    (∃ broken, Shell.loop Machine.host {} [.ok "rc", .ok "exit"] { world := Shell.fullMachine } =
      .error .streamFull broken) ∧
    ∃ after, run Machine.host ["--max-commands", "1"] "cd a b\nexit\nrc\n".toUTF8
      { world := Shell.emptyMachine } = .ok 0 after := by
  obtain ⟨hscript, hfault, hprogram⟩ :=
    loop_refines_lines Machine.host Shell.emptyMachine "cd a b\nexit\nrc\n"
  refine ⟨?_, ?_, ?_, ?_⟩
  · have hlines : LineSource.scriptLines "cd a b\nexit\nrc\n" = ["cd a b", "exit", "rc"] := by cbv
    rw [← hlines]
    exact hscript {} (by decide +kernel)
  · have hcd : Shell.Carries Machine.host {} { world := Shell.emptyMachine } ["cd a b"]
        (Shell.afterLine Machine.host {} { world := Shell.emptyMachine } "cd a b") :=
      .cons rfl (Shell.runLine_of_untroubled (by decide +kernel)) (.nil _)
    exact ⟨_, (hfault {} _ _ hcd (by decide +kernel)).1 .notText [.ok "rc"]⟩
  · obtain ⟨broken, hrc⟩ : ∃ broken, Shell.runLine Machine.host {} "rc"
        { world := Shell.fullMachine } = .error .streamFull broken := by
      have hx : Shell.executed? {} "rc" = some ⟨⟨Builtin.rc.name, []⟩, []⟩ := rfl
      have hb : Pipeline.builtin? ⟨⟨Builtin.rc.name, []⟩, []⟩ = some .rc := rfl
      rw [Shell.runLine_executed hx, Shell.carryOut_builtin hb]
      exact ⟨_, rfl⟩
    obtain ⟨-, hfull, -⟩ := loop_refines_lines Machine.host Shell.fullMachine ""
    exact ⟨_, (hfull {} [] _ (.nil _) rfl).2 "rc" .streamFull broken [.ok "exit"] hrc⟩
  · obtain ⟨_, _, _, after, -, -, hrun, -⟩ :=
      hprogram ["--max-commands", "1"] { values := [("--max-commands", "1")] } (by decide +kernel)
        (by decide) (by decide +kernel)
    exact ⟨after, hrun⟩

end CommandLine

end PipeShell
