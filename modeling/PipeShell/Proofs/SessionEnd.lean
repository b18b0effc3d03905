import PipeShell.Proofs.BuiltinArguments
import PipeShell.Proofs.SessionRun

/-!
# The end of a session

A lone `exit` is carried out in every mode and without a word, so the loop turns to its farewell. Its
arguments do not matter, but for an option in front of them: that is refused, and the session goes on.
-/
namespace PipeShell.Shell

open ShellM

variable {σ : Type} {host : Host σ} {settings : Settings} {line : String} {args : List String}

/-- Nothing is printed of a lone `exit`, and it is carried out where lines are only printed. -/
theorem runLine_loneExit (host : Host σ)
    (hp : Pipeline.ofLine settings.maxCommands line = .ok ⟨⟨"exit", args⟩, []⟩) :
    runLine host settings line = (do
      let status ← Builtin.run host .exit args
      remember status) := by
  have hlone : Pipeline.IsLone "exit" ⟨⟨Builtin.exit.name, args⟩, []⟩ := ⟨args, rfl⟩
  have hx : executed? settings line = some ⟨⟨Builtin.exit.name, args⟩, []⟩ :=
    executed?_eq_some_iff.mpr ⟨hp, fun _ => hlone⟩
  rw [runLine_builtin hx, announce_quiet (.inr hlone)]
  rfl

theorem runLine_ended (host : Host σ)
    (hp : Pipeline.ofLine settings.maxCommands line = .ok ⟨⟨"exit", args⟩, []⟩)
    (hh : ∀ argument ∈ args, OptionGrammar.isHelp argument = false)
    (ho : Builtin.leadingOption? args = none) (s : ShellState σ) :
    runLine host settings line s = .ok () { s with running := false, status := 0 } := by
  rw [runLine_loneExit host hp, Builtin.run_exit hh ho]
  rfl

theorem printLine_keeps {channel : Channel} {text : String} {s after : ShellState σ}
    (h : printLine host channel text s = .ok () after) : after.running = s.running := by
  unfold printLine print onWorld at h
  split at h
  · injection h with _ h
    rw [← h]
  · cases h

/-- A lone `exit` ends the session with status 0 and does nothing on its host, and no line is read
behind it. An option in front of its arguments is refused, and then the session goes on. -/
theorem runLine_exit (host : Host σ) (settings : Settings)
    (hp : Pipeline.ofLine settings.maxCommands line = .ok ⟨⟨"exit", args⟩, []⟩)
    (hh : ∀ argument ∈ args, argument ≠ "--help" ∧ argument ≠ "help") (s : ShellState σ) :
    (Builtin.leadingOption? args = none →
      runLine host settings line s = .ok () { s with running := false, status := 0 } ∧
      lineLog host settings line s = [] ∧
      ∀ later, s.running = true → loop host settings (.ok line :: later) s =
        farewell host { s with
          running := false
          status := 0
          prompts := s.prompts ++ [settings.prompt] }) ∧
    (∀ option, Builtin.leadingOption? args = some option →
      runLine host settings line = (do
        printLine host .err (Text.trimEnd ("Unrecognized argument: " ++ option ++ "\n"))
        remember 1) ∧
      ∀ after, runLine host settings line s = .ok () after →
        after.running = s.running ∧ after.status = 1) := by
  have hwords : ∀ argument ∈ args, OptionGrammar.isHelp argument = false := fun argument hm => by
    simpa [OptionGrammar.isHelp] using hh argument hm
  refine ⟨fun ho => ?_, fun option ho => ?_⟩
  · refine ⟨runLine_ended host hp hwords ho s, ?_, fun later hs => ?_⟩
    · rw [lineLog, runLine_ended host.traced hp hwords ho]
      rfl
    · rw [loop_cons hs]
      exact (bind_of_ok (runLine_ended host hp hwords ho _)).trans (loop_ended rfl later)
  · have hline : runLine host settings line = (do
        printLine host .err (Text.trimEnd ("Unrecognized argument: " ++ option ++ "\n"))
        remember 1) := by
      rw [runLine_loneExit host hp, Builtin.run_exit_refused hwords ho, Builtin.fail]
      simp only [bind_assoc, pure_bind]
      rfl
    refine ⟨hline, fun after ha => ?_⟩
    rw [hline] at ha
    obtain ⟨_, told, ht, hs⟩ := ok_of_bind ha
    have hrunning := printLine_keeps ht
    obtain ⟨-, rfl⟩ := EStateM.Result.ok.inj hs
    exact ⟨hrunning, rfl⟩

/-- Behind a first argument even an option is ignored. -/
theorem runLine_exit_three :
    runLine Machine.host { dump := .only } "exit 3 -x" { status := 1, world := fullMachine } =
      .ok () { running := false, status := 0, world := fullMachine } ∧
    lineLog Machine.host { dump := .only } "exit 3 -x" { status := 1, world := fullMachine } = [] := by
  have hp : Pipeline.ofLine ({ dump := .only } : Settings).maxCommands "exit 3 -x" =
      .ok ⟨⟨"exit", ["3", "-x"]⟩, []⟩ := by rfl
  obtain ⟨hended, -⟩ := runLine_exit Machine.host { dump := .only } hp (by decide)
    { status := 1, world := fullMachine }
  obtain ⟨hline, hlog, -⟩ := hended (by cbv)
  exact ⟨hline, hlog⟩

/-- After `exit -1` the session goes on with status 1. -/
theorem exit_option_goes_on :
    Pipeline.ofLine ({} : Settings).maxCommands "exit -1" = .ok ⟨⟨"exit", ["-1"]⟩, []⟩ ∧
    (afterLine Machine.host {} { world := emptyMachine } "exit -1").running = true ∧
    (afterLine Machine.host {} { world := emptyMachine } "exit -1").status = 1 ∧
    (afterLine Machine.host {} { world := emptyMachine } "exit -1").world.screen.err.written =
      "Unrecognized argument: -1\n".toUTF8 := by
  refine ⟨rfl, ?_, ?_, ?_⟩ <;> decide +kernel

end PipeShell.Shell
