import PipeShell.Proofs.CheckedExecution
import PipeShell.Proofs.LineExecution
import PipeShell.Proofs.PipelineRefusals

/-!
# A shell in which every step is checked

The shell once more, on commands that are a plain list and may be empty as far as their type goes. It
asks for the first command and the first target wherever the program does, and runs the commands by
`Execution.checkedRun`.

Main statement: for every line, in every state and under all settings, no step is outside of its range
and the line is carried out as the shell does it.
-/
namespace PipeShell

variable {σ α β : Type}

def outcome : EStateM.Result Fault (ShellState σ) α → Except Fault α × ShellState σ
  | .ok value after => (.ok value, after)
  | .error fault after => (.error fault, after)

/-- The actions of a checked shell. -/
abbrev CheckedM (σ : Type) := ExceptT Fault (StateT (ShellState σ) Checked)

instance : MonadLift (ShellM σ) (CheckedM σ) where
  monadLift x := ExceptT.mk fun s => .ok (outcome (x s))

def CheckedM.attempt {ε : Type} (operation : σ → Checked (Except ε α × σ)) :
    CheckedM σ (Except ε α) :=
  ExceptT.mk fun s => do
    let result ← operation s.world
    return (.ok result.1, { s with world := result.2 })

namespace Pipeline

/-- The commands of a line; that there is one is left to the caller. -/
def commandsOfLine (limit : Nat) (line : String) : Except ParseError (List Command) :=
  match Token.ofLine line with
  | .error cause => .error (.unterminatedQuote cause)
  | .ok tokens =>
    if tokens.isEmpty then .error .noCommands
    else if (groups tokens).length > limit then .error (.tooManyCommands limit)
    else commandsOf 1 (groups tokens)

def dumpCommands (commands : List Command) : String :=
  "PARSED COMMAND LINE - TOTAL COMMANDS " ++ toString commands.length ++ dumpFrom 1 commands

end Pipeline

namespace Shell

open ShellM

def checkedFirst (commands : List Command) : Checked Command :=
  Checked.nth .noCommand commands 0

def checkedLoneExit (commands : List Command) : Checked Bool := do
  if commands.length = 1 then
    let command ← checkedFirst commands
    return Builtin.ofName? command.name = some .exit
  else return false

def checkedStages (system : System σ) (commands : List Command) (targets : List Target)
    (world : σ) : Checked (Except Aborted Completion × σ) :=
  match system.openStreams world with
  | (.error cause, world) => return (.error (.streams cause), world)
  | (.ok outer, world) => do
    match ← Execution.checkedRun system commands targets outer world with
    | (.ok completion, world) => return (.ok completion, world)
    | (.error cause, world) => return (.error (.run cause), world)

def checkedProcesses (host : Host σ) (commands : List Command) (targets : List Target) :
    CheckedM σ Unit := do
  onWorld (host.flush .out)
  match ← CheckedM.attempt (checkedStages host.toSystem commands targets) with
  | .ok completion =>
    reportFrom host completion.neverRan
    let status ← completion.checkedStatus
    (remember status : ShellM σ Unit)
  | .error cause => (conclude host (.error cause) : ShellM σ Unit)

/-- Carries out commands with what their names refer to. The first target is asked for in any case. -/
def checkedDispatch (host : Host σ) (commands : List Command) (targets : List Target) :
    CheckedM σ Unit := do
  let target ← Checked.nth .noTarget targets 0
  match decide (commands.length = 1), target with
  | true, .builtin kind =>
    let command ← checkedFirst commands
    let status ← Builtin.run host kind command.args
    (remember status : ShellM σ Unit)
  | _, _ => checkedProcesses host commands targets

def checkedCarryOut (host : Host σ) (commands : List Command) : CheckedM σ Unit := do
  let world := (← get).world
  let searchPath := Lookup.searchPathOf host.toSystem world
  checkedDispatch host commands <| commands.map fun command =>
    Lookup.target host.toSystem world searchPath command.name

def checkedLine (host : Host σ) (settings : Settings) (line : String) : CheckedM σ Unit := do
  match Pipeline.commandsOfLine settings.maxCommands line with
  | .error cause => printLine host .out (refusal cause)
  | .ok commands =>
    if ← checkedLoneExit commands then checkedCarryOut host commands
    else match settings.dump with
      | .off => checkedCarryOut host commands
      | .beforeRunning => do
        printLine host .out (Pipeline.dumpCommands commands)
        checkedCarryOut host commands
      | .only => printLine host .out (Pipeline.dumpCommands commands)

end Shell

namespace Pipeline

theorem commandsOfLine_eq (limit : Nat) (line : String) :
    commandsOfLine limit line = (ofLine limit line).map commands := by
  unfold commandsOfLine ofLine ofTokens
  cases Token.ofLine line with
  | error cause => rfl
  | ok tokens =>
    simp only
    by_cases hempty : tokens.isEmpty
    · rw [if_pos hempty, if_pos hempty]
      rfl
    by_cases hmany : (groups tokens).length > limit
    · rw [if_neg hempty, if_neg hempty, if_pos hmany, if_pos hmany]
      rfl
    rw [if_neg hempty, if_neg hempty, if_neg hmany, if_neg hmany]
    cases hc : commandsOf 1 (groups tokens) with
    | error cause => rfl
    | ok found =>
      cases found with
      | nil => exact absurd (words_of_commandsOf hc) (groups_ne_nil tokens)
      | cons first rest => rfl

end Pipeline

/-- A checked action violates nothing and does what the other does. -/
def CheckedM.Does (x : CheckedM σ α) (y : ShellM σ α) (s : ShellState σ) : Prop :=
  x s = .ok (outcome (y s))

namespace CheckedM.Does

open ShellM

variable {x : CheckedM σ α} {y : ShellM σ α} {f : α → CheckedM σ β} {g : α → ShellM σ β}
  {s : ShellState σ}

theorem lift (y : ShellM σ α) (s : ShellState σ) : Does (liftM y) y s := rfl

theorem bind (hx : Does x y s) (hf : ∀ value t, y s = .ok value t → Does (f value) (g value) t) :
    Does (x >>= f) (y >>= g) s := by
  unfold Does at hx ⊢
  change ExceptT.bind x f s = .ok (outcome (EStateM.bind y g s))
  unfold ExceptT.bind ExceptT.mk EStateM.bind
  simp only [Bind.bind, StateT.bind, hx, Except.bind]
  cases hy : y s with
  | ok value t => exact hf value t hy
  | error fault t => rfl

theorem of_eq {y' : ShellM σ α} (h : Does x y s) (he : y' s = y s) : Does x y' s := by
  unfold Does
  rw [he]
  exact h

theorem step {checked : Checked α} {value : α} {y : ShellM σ β} (h : checked = .ok value)
    (hf : Does (f value) y s) : Does (liftM checked >>= f) y s := by
  subst h
  exact hf

end CheckedM.Does

namespace Shell

open ShellM CheckedM

variable {host : Host σ} {system : System σ} {s : ShellState σ}

theorem checkedLoneExit_eq (pipeline : Pipeline) :
    checkedLoneExit pipeline.commands = .ok (isLoneExit pipeline) := by
  obtain ⟨first, rest⟩ := pipeline
  cases rest with
  | nil => rfl
  | cons next rest => rfl

theorem stagesOf_commands (w : σ) (pipeline : Pipeline) :
    (stagesOf system w pipeline).map Stage.command = pipeline.commands := by
  unfold stagesOf
  rw [List.map_map]
  exact List.map_id _

theorem stagesOf_ne_nil (w : σ) (pipeline : Pipeline) : stagesOf system w pipeline ≠ [] := by
  unfold stagesOf Pipeline.commands
  exact List.cons_ne_nil _ _

theorem checkedStages_eq {stages : List Stage} (hne : stages ≠ []) (w : σ) :
    checkedStages system (stages.map Stage.command) (stages.map Stage.target) w =
      .ok (runStages system stages w) := by
  unfold checkedStages runStages
  cases system.openStreams w with
  | mk answer w' =>
    cases answer with
    | error cause => rfl
    | ok outer =>
      simp only [Execution.checkedRun_eq hne, Bind.bind, Except.bind]
      cases Execution.run system stages outer w' with
      | mk result w'' =>
        cases result with
        | ok completion => rfl
        | error cause => rfl

theorem runStages_checkedStatus {stages : List Stage} (hne : stages ≠ []) {w : σ}
    {completion : Completion} (h : (runStages system stages w).1 = .ok completion) :
    completion.checkedStatus = .ok completion.status := by
  unfold runStages at h
  split at h
  · cases h
  · next outer w' ho =>
    split at h
    · next found w'' hr =>
      obtain rfl : found = completion := Except.ok.inj h
      exact Execution.run_checkedStatus hne (congrArg Prod.fst hr)
    · cases h

theorem attempt_does {ε : Type} {operation : σ → Checked (Except ε α × σ)}
    {plain : σ → Except ε α × σ} (h : ∀ w, operation w = .ok (plain w)) :
    Does (CheckedM.attempt operation) (ShellM.attempt plain) s := by
  unfold Does CheckedM.attempt ExceptT.mk
  simp only [h, Bind.bind, Except.bind]
  rfl

theorem processes_does {stages : List Stage} (hne : stages ≠ []) :
    Does (checkedProcesses host (stages.map Stage.command) (stages.map Stage.target))
      (runProcesses host stages) s := by
  refine (Does.lift _ s).bind fun _ flushed _ => ?_
  refine (attempt_does (checkedStages_eq hne)).bind fun result t hran => ?_
  have hresult : (runStages host.toSystem stages flushed.world).1 = result := by
    simp only [ShellM.attempt, EStateM.Result.ok.injEq] at hran
    exact hran.1
  cases result with
  | error cause => exact .lift _ t
  | ok completion =>
    refine (Does.lift _ t).bind fun _ told _ => ?_
    exact .step (runStages_checkedStatus hne hresult) (.lift _ told)

theorem dispatch_does (host : Host σ) (pipeline : Pipeline) (s : ShellState σ) :
    Does (checkedDispatch host ((stagesOf host.toSystem s.world pipeline).map Stage.command)
      ((stagesOf host.toSystem s.world pipeline).map Stage.target)) (carryOut host pipeline) s := by
  cases hb : pipeline.builtin? with
  | some kind =>
    obtain ⟨args, rfl⟩ := Pipeline.builtin?_eq_some_iff.mp hb
    have htarget : Lookup.target host.toSystem s.world (Lookup.searchPathOf host.toSystem s.world)
        kind.name = .builtin kind := target_builtin_iff.mpr rfl
    have hstages : stagesOf host.toSystem s.world ⟨⟨kind.name, args⟩, []⟩ =
        [⟨⟨kind.name, args⟩, .builtin kind⟩] := by
      simp only [stagesOf, Pipeline.commands, List.map_cons, List.map_nil, htarget]
    rw [carryOut_builtin hb, hstages]
    refine .step (Checked.nth_eq rfl) (.step (Checked.nth_eq rfl) ?_)
    exact (Does.lift _ s).bind fun status after _ => .lift _ after
  | none =>
    refine Does.of_eq ?_ (carryOut_processes hb s)
    refine .step (Checked.nth_eq rfl) ?_
    split
    · next kind hsingle htarget =>
      -- a lone command whose name is that of a built-in is one
      obtain ⟨⟨name, args⟩, rest⟩ := pipeline
      rw [decide_eq_true_eq, List.length_map] at hsingle
      obtain rfl : rest = [] := by simpa [stagesOf, Pipeline.commands] using hsingle
      have hname : name = kind.name := target_builtin_iff.mp htarget
      have hlone : Pipeline.IsLone kind.name ⟨⟨name, args⟩, []⟩ := ⟨args, by rw [hname]⟩
      rw [Pipeline.builtin?_eq_some_iff.mpr hlone] at hb
      cases hb
    · exact processes_does (stagesOf_ne_nil s.world pipeline)

theorem carryOut_does (host : Host σ) (pipeline : Pipeline) (s : ShellState σ) :
    Does (checkedCarryOut host pipeline.commands) (carryOut host pipeline) s := by
  have hdispatch := dispatch_does host pipeline s
  have htargets : (stagesOf host.toSystem s.world pipeline).map Stage.target =
      pipeline.commands.map fun command =>
        Lookup.target host.toSystem s.world (Lookup.searchPathOf host.toSystem s.world)
          command.name := by
    unfold stagesOf
    rw [List.map_map]
    rfl
  rw [stagesOf_commands, htargets] at hdispatch
  exact hdispatch

/-- No line makes the shell take a step outside of its range. -/
theorem checkedLine_eq (host : Host σ) (settings : Settings) (line : String) (s : ShellState σ) :
    checkedLine host settings line s = .ok (outcome (runLine host settings line s)) := by
  change Does (checkedLine host settings line) (runLine host settings line) s
  unfold checkedLine runLine
  rw [Pipeline.commandsOfLine_eq]
  cases Pipeline.ofLine settings.maxCommands line with
  | error cause => exact .lift _ s
  | ok pipeline =>
    refine .step (checkedLoneExit_eq pipeline) ?_
    cases hlone : isLoneExit pipeline with
    | true =>
      simp only [hlone, if_true]
      exact carryOut_does host pipeline s
    | false =>
      simp only [hlone, Bool.false_eq_true, if_false]
      cases settings.dump with
      | off => exact carryOut_does host pipeline s
      | beforeRunning =>
        exact (Does.lift _ s).bind fun _ told _ => carryOut_does host pipeline told
      | only => exact .lift _ s

/-- Without the pipeline's first command the shell does take such a step. -/
example (host : Host σ) (s : ShellState σ) : checkedCarryOut host [] s = .error .noTarget := rfl

end Shell

end PipeShell
