import PipeShell.Machine.System
import PipeShell.Proofs.LoneBuiltins

/-!
# The same lines in each mode

A system and a terminal that share no state see the same lines three times: they are run, printed
and run, and only printed. Main statement: printing first adds the text of each pipeline to the
output and changes nothing else, and printing alone asks nothing of the system.
-/
namespace PipeShell

open ShellM

variable {σ τ α : Type} {terminal : Terminal τ} {good : τ → Prop}

/-- In a good state the terminal takes all text, and its state stays good. -/
structure Terminal.Takes (terminal : Terminal τ) (good : τ → Prop) : Prop where
  write (channel : Channel) (bytes : ByteArray) {w : τ} : good w →
    ∃ after, terminal.write channel bytes w = (.ok (), after) ∧ good after
  flush (channel : Channel) {w : τ} : good w →
    ∃ after, terminal.flush channel w = (.ok (), after) ∧ good after

/-- The same state of the system, and terminals that take all text. -/
def SameSystem (good : τ → Prop) (t w : σ × τ) : Prop := t.1 = w.1 ∧ good t.2 ∧ good w.2

section SameSystem

variable {t w : σ × τ}

theorem SameSystem.agree (h : SameSystem good t w) (request : σ → α × σ) :
    Agree (SameSystem good) ((request t.1).1, (request t.1).2, t.2)
      ((request w.1).1, (request w.1).2, w.2) := by
  obtain ⟨he, hgood⟩ := h
  rw [he]
  exact ⟨_, _, _, rfl, rfl, rfl, hgood⟩

theorem SameSystem.agree_terminal (h : SameSystem good t w) {speak : τ → Except Fault Unit × τ}
    (hs : ∀ {w : τ}, good w → ∃ after, speak w = (.ok (), after) ∧ good after) :
    Agree (SameSystem good) ((speak t.2).1, t.1, (speak t.2).2)
      ((speak w.2).1, w.1, (speak w.2).2) := by
  obtain ⟨he, ht, hw⟩ := h
  obtain ⟨t', hts, ht'⟩ := hs ht
  obtain ⟨w', hws, hw'⟩ := hs hw
  rw [hts, hws]
  exact ⟨_, _, _, rfl, rfl, he, ht', hw'⟩

end SameSystem

namespace Terminal.Takes

/-- No answer depends on what the terminal holds. -/
theorem alike (h : terminal.Takes good) (system : System σ) :
    Host.Alike (SameSystem good) (Host.ofParts system terminal)
      (Host.ofParts system terminal) where
  openStreams ht := ht.agree system.openStreams
  openPipe onExec ht := ht.agree (system.openPipe onExec)
  close handle ht := ⟨congrArg (system.close handle) ht.1, ht.2⟩
  start request ht := ht.agree (system.start request)
  wait process ht := ht.agree (system.wait process)
  searchPath ht := congrArg system.searchPath ht.1
  fileInfo path ht := congrArg (system.fileInfo · path) ht.1
  changeDirectory path ht := ht.agree (system.changeDirectory path)
  write channel bytes ht := ht.agree_terminal (h.write channel bytes)
  flush channel ht := ht.agree_terminal (h.flush channel)

theorem preserves (h : terminal.Takes good) (system : System σ) :
    (Host.ofParts system terminal).traced.Preserves
      fun t => good t.world.2 ∧ faults t.log = [] := by
  have hnoted {log : List Act} {act : Act} (hl : faults log = []) (ha : faults [act] = []) :
      faults (log ++ [act]) = [] := by
    rw [faults, said, List.filterMap_append, List.filterMap_append]
    exact List.append_eq_nil_iff.mpr ⟨hl, ha⟩
  refine { openStreams := ?_, openPipe := ?_, close := ?_, start := ?_, wait := ?_,
           changeDirectory := ?_, write := ?_, flush := ?_ }
  · exact fun ht => ⟨ht.1, hnoted ht.2 rfl⟩
  · exact fun _ _ ht => ⟨ht.1, hnoted ht.2 rfl⟩
  · exact fun _ _ ht => ⟨ht.1, hnoted ht.2 rfl⟩
  · exact fun _ _ ht => ⟨ht.1, hnoted ht.2 rfl⟩
  · exact fun _ _ ht => ⟨ht.1, hnoted ht.2 rfl⟩
  · exact fun _ _ ht => ⟨ht.1, hnoted ht.2 rfl⟩
  · intro channel bytes t ht
    obtain ⟨after, hw, ha⟩ := h.write channel bytes ht.1
    simp only [Host.traced, Host.ofParts, Traced.note, hw]
    exact ⟨ha, hnoted ht.2 rfl⟩
  · intro channel t ht
    obtain ⟨after, hw, ha⟩ := h.flush channel ht.1
    simp only [Host.traced, Host.ofParts, Traced.note, hw]
    exact ⟨ha, hnoted ht.2 rfl⟩

theorem printLine (h : terminal.Takes good) (system : System σ) (channel : Channel) (line : String)
    {s : ShellState (Traced (σ × τ))} (hs : good s.world.world.2) :
    ∃ after, good after ∧
      ShellM.printLine (Host.ofParts system terminal).traced channel line s =
        .ok () { s with world := ⟨(s.world.world.1, after),
          s.world.log ++ [.said (.wrote channel (line ++ "\n").toUTF8 (.ok ()))]⟩ } := by
  obtain ⟨after, hw, ha⟩ := h.write channel (line ++ "\n").toUTF8 hs
  refine ⟨after, ha, ?_⟩
  simp only [ShellM.printLine, print, onWorld, Host.traced, Host.ofParts, Traced.note, hw]

end Terminal.Takes

namespace Shell

def printed (text : String) : List Act := [.said (.wrote .out (text ++ "\n").toUTF8 (.ok ()))]

/-- What is noted of a line that is printed before it runs: nothing if it is a lone `exit`. -/
def dumped (limit : Nat) (line : String) : List Act :=
  match Pipeline.ofLine limit line with
  | .ok pipeline => if isLoneExit pipeline then [] else printed pipeline.dump
  | .error _ => []

variable (system : System σ) (settings : Settings) {t s : ShellState (σ × τ)}

/-! ### Printing first -/

theorem traced_alike_traced (hs : t.Alike (SameSystem good) s) :
    t.traced.Alike (Noted (SameSystem good) [] []) s.traced :=
  ⟨hs.running, hs.status, hs.prompts, hs.world, [], rfl, rfl⟩

theorem runLine_dump (h : terminal.Takes good) (line : String)
    (hs : t.Alike (SameSystem good) s) :
    ShellM.Alike (Noted (SameSystem good) (dumped settings.maxCommands line) [])
      (runLine (Host.ofParts system terminal).traced
        { settings with dump := .beforeRunning } line t.traced)
      (runLine (Host.ofParts system terminal).traced
        { settings with dump := .off } line s.traced) := by
  unfold dumped
  cases hp : Pipeline.ofLine settings.maxCommands line with
  | error cause =>
    simp only [runLine, hp]
    exact ((h.alike system).traced [] []).printLine .out _ (traced_alike_traced hs)
  | ok pipeline =>
    cases he : isLoneExit pipeline with
    | true =>
      simp only [runLine, hp, he, if_true]
      exact ((h.alike system).traced [] []).carryOut pipeline (traced_alike_traced hs)
    | false =>
      simp only [runLine, hp, he, Bool.false_eq_true, if_false]
      obtain ⟨after, ha, hprint⟩ :=
        h.printLine system .out pipeline.dump (s := t.traced) hs.world.2.1
      rw [bind_of_ok hprint]
      refine ((h.alike system).traced (printed pipeline.dump) []).carryOut pipeline ?_
      exact ⟨hs.running, hs.status, hs.prompts, ⟨hs.world.1, ha, hs.world.2.2⟩, [], rfl, rfl⟩

theorem afterLine_dump (h : terminal.Takes good) (line : String)
    (hs : t.Alike (SameSystem good) s) :
    lineLog (Host.ofParts system terminal) { settings with dump := .beforeRunning } line t =
      dumped settings.maxCommands line ++
        lineLog (Host.ofParts system terminal) { settings with dump := .off } line s ∧
    (afterLine (Host.ofParts system terminal) { settings with dump := .beforeRunning } t line).Alike
      (SameSystem good)
      (afterLine (Host.ofParts system terminal) { settings with dump := .off } s line) := by
  have ha := (runLine_dump system settings h line hs).afterwards
  have ht := (runLine_traced (Host.ofParts system terminal)
    { settings with dump := .beforeRunning } line t).afterwards
  have hu := (runLine_traced (Host.ofParts system terminal)
    { settings with dump := .off } line s).afterwards
  obtain ⟨hw, notes, hshown, hoff⟩ := ha.world
  refine ⟨?_, ht.running.symm.trans (ha.running.trans hu.running),
    ht.status.symm.trans (ha.status.trans hu.status),
    ht.prompts.symm.trans (ha.prompts.trans hu.prompts), ?_⟩
  · rw [lineLog, lineLog, hshown, hoff, List.nil_append]
  · rw [ht.world, hu.world] at hw
    exact hw

theorem afterLines_alike (h : terminal.Takes good) (lines : List String)
    (hs : t.Alike (SameSystem good) s) :
    (afterLines (Host.ofParts system terminal)
      { settings with dump := .beforeRunning } t lines).Alike (SameSystem good)
      (afterLines (Host.ofParts system terminal) { settings with dump := .off } s lines) := by
  induction lines generalizing t s with
  | nil => exact hs
  | cons line rest ih => exact ih (afterLine_dump system settings h line hs).2

/-! ### Printing alone -/

/-- Nothing but the terminal was used. -/
structure Talked (good : τ → Prop) (s after : ShellState (Traced (σ × τ))) : Prop where
  good : good after.world.world.2
  system : after.world.world.1 = s.world.world.1
  log : ∃ words : List Utterance, after.world.log = s.world.log ++ words.map .said

theorem exit_talked (h : terminal.Takes good) (args : List String)
    {s : ShellState (Traced (σ × τ))} (hs : good s.world.world.2) :
    ∃ code after, Builtin.run (Host.ofParts system terminal).traced .exit args s = .ok code after ∧
      Talked good s after := by
  unfold Builtin.run
  cases Builtin.exit.grammar.read args with
  | ok values => exact ⟨0, { s with running := false }, rfl, hs, rfl, [], (List.append_nil _).symm⟩
  | error stop =>
    cases stop with
    | help text =>
      obtain ⟨after, ha, hprint⟩ := h.printLine system .out (Text.trimEnd text) hs
      exact ⟨0, _, bind_of_ok hprint, ha, rfl, [_], rfl⟩
    | refused cause =>
      obtain ⟨after, ha, hprint⟩ := h.printLine system .err (Text.trimEnd cause.message) hs
      exact ⟨1, _, bind_of_ok hprint, ha, rfl, [_], rfl⟩

/-- What is noted of a line that is not carried out. -/
def answered (limit : Nat) (line : String) : List Act :=
  match Pipeline.ofLine limit line with
  | .ok pipeline => printed pipeline.dump
  | .error cause => printed (rejection cause)

theorem runLine_only (h : terminal.Takes good) (line : String) (hs : good s.world.2) :
    ∃ after, runLine (Host.ofParts system terminal).traced { settings with dump := .only } line
        s.traced = .ok () after ∧ Talked good s.traced after ∧
      (¬ LoneLine settings "exit" line → after.world.log = answered settings.maxCommands line ∧
        after.status = s.status ∧ after.running = s.running) := by
  unfold answered
  cases hp : Pipeline.ofLine settings.maxCommands line with
  | error cause =>
    obtain ⟨after, ha, hprint⟩ := h.printLine system .out (refusal cause) (s := s.traced) hs
    simp only [runLine, hp, ← refusal_eq]
    exact ⟨_, hprint, ⟨ha, rfl, [_], rfl⟩, fun _ => ⟨rfl, rfl, rfl⟩⟩
  | ok pipeline =>
    cases he : isLoneExit pipeline with
    | true =>
      have hlone : pipeline.IsLone "exit" := isLoneExit_iff.mp he
      have hb : pipeline.builtin? = some .exit := Pipeline.builtin?_eq_some_iff.mpr hlone
      obtain ⟨code, after, hrun, ht⟩ :=
        exit_talked system h pipeline.first.args (s := s.traced) hs
      simp only [runLine, hp, he, if_true, carryOut_builtin hb]
      exact ⟨_, bind_of_ok hrun, ⟨ht.good, ht.system, ht.log⟩,
        fun hn => absurd ⟨pipeline, hp, hlone⟩ hn⟩
    | false =>
      obtain ⟨after, ha, hprint⟩ := h.printLine system .out pipeline.dump (s := s.traced) hs
      simp only [runLine, hp, he, Bool.false_eq_true, if_false]
      exact ⟨_, hprint, ⟨ha, rfl, [_], rfl⟩, fun _ => ⟨rfl, rfl, rfl⟩⟩

theorem afterLine_only (h : terminal.Takes good) (line : String) (hs : good s.world.2) :
    let host := Host.ofParts system terminal
    let only : Settings := { settings with dump := .only }
    good (afterLine host only s line).world.2 ∧
    (afterLine host only s line).world.1 = s.world.1 ∧
    (∀ act ∈ lineLog host only line s, ∃ utterance, act = .said utterance) ∧
    (¬ LoneLine settings "exit" line →
      lineLog host only line s = answered settings.maxCommands line ∧
      (afterLine host only s line).status = s.status ∧
      (afterLine host only s line).running = s.running) := by
  intro host only
  obtain ⟨after, hrun, ⟨hgood, hsystem, words, hlog⟩, hother⟩ :=
    runLine_only system settings h line hs
  have ha := (runLine_traced host only line s).afterwards
  have hnotes : lineLog host only line s = after.world.log := by rw [lineLog, hrun]; rfl
  rw [hrun] at ha
  have hworld : after.world.world = (afterLine host only s line).world := ha.world
  have hstatus : after.status = (afterLine host only s line).status := ha.status
  have hrunning : after.running = (afterLine host only s line).running := ha.running
  rw [← hworld, ← hstatus, ← hrunning, hnotes]
  refine ⟨hgood, hsystem, fun act hact => ?_, hother⟩
  rw [hlog] at hact
  obtain ⟨utterance, -, rfl⟩ := List.mem_map.mp hact
  exact ⟨utterance, rfl⟩

theorem afterLines_only (h : terminal.Takes good) (lines : List String) (hs : good s.world.2) :
    let last := afterLines (Host.ofParts system terminal) { settings with dump := .only } s lines
    good last.world.2 ∧ last.world.1 = s.world.1 := by
  induction lines generalizing s with
  | nil => exact ⟨hs, rfl⟩
  | cons line rest ih =>
    obtain ⟨hgood, hsystem, -⟩ :=
      afterLine_only system settings h line hs
    obtain ⟨hrest, hlast⟩ := ih hgood
    exact ⟨hrest, hlast.trans hsystem⟩

/-! ### All modes -/

theorem untroubled_of_takes (h : terminal.Takes good) (lines : List String) (hs : good s.world.2) :
    Untroubled (Host.ofParts system terminal) settings s lines := by
  induction lines generalizing s with
  | nil => trivial
  | cons line rest ih =>
    have hstart : ShellState.Alike (fun t w => t = w ∧ good t.world.2 ∧ faults t.log = [])
        s.traced s.traced := ⟨rfl, rfl, rfl, rfl, hs, rfl⟩
    have hend := ((h.preserves system).alike.runLine settings line hstart).afterwards.world.2
    have ha := (runLine_traced (Host.ofParts system terminal) settings line s).afterwards.world
    refine ⟨hend.2, ih ?_⟩
    rw [afterLine, ← ha]
    exact hend.1

/-- The same lines in the three modes, on a terminal that takes all text: no line fails, a pipeline
that is printed first runs as it does when nothing is printed, and where lines are only printed, the
system is not asked for anything. -/
theorem afterLines_dump (system : System σ) (settings : Settings) (h : terminal.Takes good)
    {s : ShellState (σ × τ)} (hs : good s.world.2) (before : List String) (line : String) :
    let host := Host.ofParts system terminal
    let mode (dump : Dump) : Settings := { settings with dump }
    let shell (dump : Dump) := afterLines host (mode dump) s before
    let log (dump : Dump) := lineLog host (mode dump) line (shell dump)
    (∀ dump, Untroubled host (mode dump) s (before ++ [line])) ∧
    ((shell .beforeRunning).status = (shell .off).status ∧
      (shell .beforeRunning).running = (shell .off).running ∧
      (shell .beforeRunning).world.1 = (shell .off).world.1 ∧
      log .beforeRunning = dumped settings.maxCommands line ++ log .off) ∧
    (shell .only).world.1 = s.world.1 ∧
    (∀ act ∈ log .only, ∃ utterance, act = .said utterance) ∧
    (¬ LoneLine settings "exit" line →
      log .only = answered settings.maxCommands line ∧
      (afterLine host (mode .only) (shell .only) line).status = (shell .only).status ∧
      (afterLine host (mode .only) (shell .only) line).running = (shell .only).running) := by
  intro host mode shell log
  have hstart : s.Alike (SameSystem good) s := ⟨rfl, rfl, rfl, rfl, hs, hs⟩
  have hshells : (shell .beforeRunning).Alike (SameSystem good) (shell .off) :=
    afterLines_alike system settings h before hstart
  obtain ⟨hgood, hsystem⟩ := afterLines_only system settings h before hs
  obtain ⟨-, -, honly⟩ := afterLine_only system settings h line hgood
  exact ⟨fun dump => untroubled_of_takes system _ h _ hs,
    ⟨hshells.status, hshells.running, hshells.world.1,
      (afterLine_dump system settings h line hshells).1⟩, hsystem, honly⟩

end Shell

def Screen.Unlimited (screen : Screen) : Prop := screen.out.limit = none ∧ screen.err.limit = none

theorem BoundedStream.write_of_unlimited {stream : BoundedStream} (h : stream.limit = none)
    (bytes : ByteArray) :
    stream.write bytes = (.ok (), { stream with written := stream.written ++ bytes }) := by
  have hr : stream.room = none := by rw [room, h, Option.map_none]
  rw [write, hr]

theorem Screen.terminal_takes : Screen.terminal.Takes Screen.Unlimited where
  write channel bytes screen h := by
    cases channel with
    | out =>
      have hw := BoundedStream.write_of_unlimited h.1 bytes
      refine ⟨{ screen with out.written := screen.out.written ++ bytes }, ?_, h⟩
      simp only [Screen.terminal, Screen.write, hw]
    | err =>
      have hw := BoundedStream.write_of_unlimited h.2 bytes
      refine ⟨{ screen with err.written := screen.err.written ++ bytes }, ?_, h⟩
      simp only [Screen.terminal, Screen.write, hw]
  flush _ screen h := ⟨screen, rfl, h⟩

/-- After a `cd` that is refused, `rc` is printed before it runs, or only printed. -/
theorem Shell.afterLines_dump_rc :
    let host := Host.ofParts Machine.host.toSystem Screen.terminal
    let shell (dump : Dump) :=
      Shell.afterLines host { dump } { world := (Shell.emptyMachine, {}) } ["cd a b"]
    let log (dump : Dump) := Shell.lineLog host { dump } "rc" (shell dump)
    let text := "PARSED COMMAND LINE - TOTAL COMMANDS 1\n<1> rc"
    (shell .beforeRunning).status = (shell .off).status ∧
    log .beforeRunning = Shell.printed text ++ log .off ∧ log .only = Shell.printed text := by
  have hp : Pipeline.ofLine 8 "rc" = .ok ⟨⟨"rc", []⟩, []⟩ := by cbv
  have htext : Pipeline.dump ⟨⟨"rc", []⟩, []⟩ =
      "PARSED COMMAND LINE - TOTAL COMMANDS 1\n<1> rc" := by
    decide +kernel
  have hdumped : Shell.dumped 8 "rc" = Shell.printed (Pipeline.dump ⟨⟨"rc", []⟩, []⟩) := by
    rw [Shell.dumped, hp]
    rfl
  have hanswered : Shell.answered 8 "rc" = Shell.printed (Pipeline.dump ⟨⟨"rc", []⟩, []⟩) := by
    rw [Shell.answered, hp]
  have hrc : ¬ Shell.LoneLine {} "exit" "rc" := by
    rintro ⟨pipeline, hexit, args, rfl⟩
    rw [show ({} : Settings).maxCommands = 8 from rfl, hp] at hexit
    simp at hexit
  obtain ⟨-, ⟨hstatus, -, -, hlog⟩, -, -, honly⟩ := Shell.afterLines_dump Machine.host.toSystem {}
    Screen.terminal_takes (s := { world := (Shell.emptyMachine, {}) }) ⟨rfl, rfl⟩ ["cd a b"] "rc"
  refine ⟨hstatus, ?_, ?_⟩
  · rw [← htext, ← hdumped]
    exact hlog
  · rw [← htext, ← hanswered]
    exact (honly hrc).1

end PipeShell
