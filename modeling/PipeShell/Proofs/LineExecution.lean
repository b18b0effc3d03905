import Mathlib
import PipeShell.Shell

/-!
# Which lines are executed

A line is refused, or it is printed as the settings ask for, and then it may be executed: a built-in
that stands alone is run, and anything else is run as processes. `endOf?` says what came of that.
-/
namespace PipeShell

def Pipeline.builtin? (pipeline : Pipeline) : Option Builtin :=
  if pipeline.isSingle then Builtin.ofName? pipeline.first.name else none

def Pipeline.IsLone (name : String) (pipeline : Pipeline) : Prop :=
  ∃ args, pipeline = ⟨⟨name, args⟩, []⟩

/-- The code that stands for the way in which a stage ended. -/
inductive Ending.Reports : Ending → Int32 → Prop
  | exited (code : Int32) : Reports (.exited code) code
  | signaled (signal : Int32) : Reports (.signaled signal) (128 + signal)
  | notFound : Reports .notFound 127
  | notExecutable : Reports .notExecutable 126

theorem Ending.reports_code (ending : Ending) : ending.Reports ending.code := by
  cases ending with
  | exited code => exact .exited code
  | signaled signal => exact .signaled signal
  | notFound => exact .notFound
  | notExecutable => exact .notExecutable

theorem Builtin.ofName?_eq_some_iff {name : String} {kind : Builtin} :
    Builtin.ofName? name = some kind ↔ name = kind.name := by
  constructor
  · intro h
    have hn := List.find?_some h
    simpa [eq_comm] using hn
  · rintro rfl
    cases kind <;> decide

theorem Pipeline.builtin?_eq_some_iff {pipeline : Pipeline} {kind : Builtin} :
    pipeline.builtin? = some kind ↔ pipeline.IsLone kind.name := by
  obtain ⟨⟨name, args⟩, rest⟩ := pipeline
  cases rest <;>
    simp [builtin?, isSingle, IsLone, Builtin.ofName?_eq_some_iff]

theorem ShellM.bind_of_ok {σ α β : Type} {x : ShellM σ α} {f : α → ShellM σ β} {value : α}
    {s t : ShellState σ} (h : x s = .ok value t) : (x >>= f) s = f value t := by
  change EStateM.bind x f s = _
  simp only [EStateM.bind, h]

theorem ShellM.ok_of_bind {σ α β : Type} {x : ShellM σ α} {f : α → ShellM σ β} {result : β}
    {s after : ShellState σ} (h : (x >>= f) s = .ok result after) :
    ∃ value t, x s = .ok value t ∧ f value t = .ok result after := by
  change EStateM.bind x f s = _ at h
  unfold EStateM.bind at h
  cases hx : x s with
  | ok value t => exact ⟨value, t, rfl, by rwa [hx] at h⟩
  | error fault t =>
    rw [hx] at h
    cases h

namespace Shell

open ShellM

variable {σ : Type}

theorem isLoneExit_iff {pipeline : Pipeline} :
    isLoneExit pipeline = true ↔ pipeline.IsLone "exit" := by
  obtain ⟨⟨name, args⟩, rest⟩ := pipeline
  cases rest <;>
    simp [isLoneExit, Pipeline.isSingle, Pipeline.IsLone, Builtin.ofName?_eq_some_iff, Builtin.name]

/-- The pipeline that is executed for a line, if it is one: where lines are only printed, nothing
but a lone `exit` is. -/
def executed? (settings : Settings) (line : String) : Option Pipeline :=
  match Pipeline.ofLine settings.maxCommands line with
  | .error _ => none
  | .ok pipeline =>
    if settings.dump = .only ∧ ¬ isLoneExit pipeline then none else some pipeline

def announcement? (settings : Settings) (pipeline : Pipeline) : Option String :=
  if settings.dump = .off ∨ isLoneExit pipeline then none else some pipeline.dump

def announce (host : Host σ) (settings : Settings) (pipeline : Pipeline) : ShellM σ Unit :=
  match announcement? settings pipeline with
  | some text => printLine host .out text
  | none => pure ()

/-- What is printed of a line that is no pipeline. -/
def rejection : ParseError → String
  | .noCommands => "warning: no commands provided"
  | .tooManyCommands limit => "error: piping limited to " ++ toString limit ++ " commands"
  | .emptyCommand position =>
    "error: empty command at position " ++ toString position ++ " of the pipeline"
  | .unterminatedQuote found =>
    "error: unterminated " ++ found.quote.toString ++ " quote starting at offset " ++
      toString found.offset

theorem refusal_eq (cause : ParseError) : refusal cause = rejection cause := by
  cases cause with
  | noCommands => rfl
  | tooManyCommands limit =>
    change "error: " ++ ("piping limited to " ++ toString limit ++ " commands") = _
    rw [← String.append_assoc, ← String.append_assoc]
    rfl
  | emptyCommand position =>
    change "error: " ++
      ("empty command at position " ++ toString position ++ " of the pipeline") = _
    rw [← String.append_assoc, ← String.append_assoc]
    rfl
  | unterminatedQuote found =>
    change "error: " ++ ("unterminated " ++ found.quote.toString ++
      " quote starting at offset " ++ toString found.offset) = _
    rw [← String.append_assoc, ← String.append_assoc, ← String.append_assoc]
    rfl

def abortNotice (cause : Aborted) : String :=
  "error: command execution failed: " ++ cause.chain ++ "\n"

variable {host : Host σ} {settings : Settings} {line : String} {pipeline : Pipeline}

theorem runLine_refused {cause : ParseError}
    (h : Pipeline.ofLine settings.maxCommands line = .error cause) :
    runLine host settings line = printLine host .out (refusal cause) := by
  simp only [runLine, h]

theorem runLine_shown (h : Pipeline.ofLine settings.maxCommands line = .ok pipeline)
    (hx : executed? settings line = none) :
    runLine host settings line = announce host settings pipeline := by
  simp only [executed?, h, ite_eq_left_iff, reduceCtorEq, imp_false, not_not] at hx
  obtain ⟨hd, he⟩ := hx
  simp [runLine, h, announce, announcement?, hd, he]

theorem executed?_eq_some_iff : executed? settings line = some pipeline ↔
    Pipeline.ofLine settings.maxCommands line = .ok pipeline ∧
      (settings.dump = .only → pipeline.IsLone "exit") := by
  unfold executed?
  cases Pipeline.ofLine settings.maxCommands line with
  | error cause => simp
  | ok found =>
    simp only [Except.ok.injEq]
    constructor
    · intro h
      obtain ⟨hx, rfl⟩ : (settings.dump = .only → isLoneExit found = true) ∧ found = pipeline := by
        simpa using h
      exact ⟨rfl, fun hd => isLoneExit_iff.mp (hx hd)⟩
    · rintro ⟨rfl, hx⟩
      exact if_neg fun h => h.2 (isLoneExit_iff.mpr (hx h.1))

theorem runLine_executed (h : executed? settings line = some pipeline) :
    runLine host settings line = (do announce host settings pipeline; carryOut host pipeline) := by
  have hp := (executed?_eq_some_iff.mp h).1
  simp only [executed?, hp] at h
  cases he : isLoneExit pipeline with
  | true => simp [runLine, hp, announce, announcement?, he]
  | false =>
    cases hd : settings.dump with
    | off => simp [runLine, hp, announce, announcement?, he, hd]
    | beforeRunning => simp [runLine, hp, announce, announcement?, he, hd]
    | only => simp [he, hd] at h

theorem carryOut_builtin {kind : Builtin} (h : pipeline.builtin? = some kind) :
    carryOut host pipeline = (do
      let status ← Builtin.run host kind pipeline.first.args
      remember status) := by
  obtain ⟨args, rfl⟩ := Pipeline.builtin?_eq_some_iff.mp h
  have hk : Builtin.ofName? kind.name = some kind := Builtin.ofName?_eq_some_iff.mpr rfl
  funext s
  simp only [carryOut, stagesOf, Pipeline.commands, List.map_cons, List.map_nil, Lookup.target, hk]
  rfl

theorem runLine_builtin {kind : Builtin} {args : List String}
    (h : executed? settings line = some ⟨⟨kind.name, args⟩, []⟩) :
    runLine host settings line = (do
      announce host settings ⟨⟨kind.name, args⟩, []⟩
      let status ← Builtin.run host kind args
      remember status) := by
  rw [runLine_executed h, carryOut_builtin (Pipeline.builtin?_eq_some_iff.mpr ⟨args, rfl⟩)]

/-- Without a dump, and for a lone `exit` in any mode, nothing is printed first. -/
theorem announce_quiet (h : settings.dump = .off ∨ pipeline.IsLone "exit") :
    announce host settings pipeline = pure () := by
  have hnone : announcement? settings pipeline = none := if_pos (h.imp_right isLoneExit_iff.mpr)
  rw [announce, hnone]

theorem target_builtin_iff {system : System σ} {world : σ} {searchPath name : String}
    {kind : Builtin} :
    Lookup.target system world searchPath name = .builtin kind ↔ name = kind.name := by
  rw [← Builtin.ofName?_eq_some_iff]
  unfold Lookup.target
  cases Builtin.ofName? name with
  | some found => simp
  | none => cases Lookup.find? system world searchPath name <;> simp

theorem carryOut_processes (h : pipeline.builtin? = none) (s : ShellState σ) :
    carryOut host pipeline s =
      runProcesses host (stagesOf host.toSystem s.world pipeline) s := by
  unfold carryOut
  simp only [bind, EStateM.bind, get, getThe, MonadStateOf.get, EStateM.get]
  refine congrFun ?_ s
  split
  · next command kind hs =>
    -- a single stage that is a built-in comes of a pipeline that is one
    obtain ⟨⟨name, args⟩, rest⟩ := pipeline
    simp only [stagesOf, Pipeline.commands, List.map_cons, List.cons.injEq, Stage.mk.injEq,
      List.map_eq_nil_iff] at hs
    obtain ⟨⟨-, ht⟩, rfl⟩ := hs
    have hl : Pipeline.IsLone kind.name ⟨⟨name, args⟩, []⟩ :=
      ⟨args, by rw [← target_builtin_iff.mp ht]⟩
    rw [Pipeline.builtin?_eq_some_iff.mpr hl] at h
    cases h
  · rfl

/-- What the execution of a line came to: the code of a built-in, or what running processes gave. -/
inductive LineEnd where
  | builtin (kind : Builtin) (code : Int32)
  | processes (result : Except Aborted Completion)
  deriving DecidableEq

/-- The status that an executed line leaves: the code of the built-in or of the last stage, and 1 if
the stages were given up. -/
inductive LineEnd.Leaves : LineEnd → Int32 → Prop
  | builtin (kind : Builtin) (code : Int32) : Leaves (.builtin kind code) code
  | last {completion : Completion} {stage : StageEnd} {code : Int32} :
    completion.stages.getLast? = some stage → stage.ending.Reports code →
    Leaves (.processes (.ok completion)) code
  | aborted (cause : Aborted) : Leaves (.processes (.error cause)) 1

/-- What the execution of a line comes to, unless it is not executed or the terminal fails. -/
def endOf? (host : Host σ) (settings : Settings) (line : String) (s : ShellState σ) :
    Option LineEnd :=
  match executed? settings line with
  | none => none
  | some pipeline =>
    match announce host settings pipeline s with
    | .error _ _ => none
    | .ok _ told =>
      match pipeline.builtin? with
      | some kind =>
        match Builtin.run host kind pipeline.first.args told with
        | .ok code _ => some (.builtin kind code)
        | .error _ _ => none
      | none =>
        match host.flush .out told.world with
        | (.ok _, world) =>
          some (.processes
            (runStages host.toSystem (stagesOf host.toSystem told.world pipeline) world).1)
        | (.error _, _) => none

theorem endOf?_builtin {kind : Builtin} {args : List String} {s told after : ShellState σ}
    {code : Int32} (h : executed? settings line = some ⟨⟨kind.name, args⟩, []⟩)
    (ha : announce host settings ⟨⟨kind.name, args⟩, []⟩ s = .ok () told)
    (hb : Builtin.run host kind args told = .ok code after) :
    endOf? host settings line s = some (.builtin kind code) := by
  have hk : Pipeline.builtin? ⟨⟨kind.name, args⟩, []⟩ = some kind :=
    Pipeline.builtin?_eq_some_iff.mpr ⟨args, rfl⟩
  simp only [endOf?, h, ha, hk, hb]

theorem endOf?_processes {s told : ShellState σ} {world : σ}
    (h : executed? settings line = some pipeline) (hp : pipeline.builtin? = none)
    (ha : announce host settings pipeline s = .ok () told)
    (hf : host.flush .out told.world = (.ok (), world)) :
    endOf? host settings line s = some (.processes
      (runStages host.toSystem (stagesOf host.toSystem told.world pipeline) world).1) := by
  simp only [endOf?, h, ha, hp, hf]

theorem endOf?_eq_processes {s : ShellState σ} {result : Except Aborted Completion}
    (h : endOf? host settings line s = some (.processes result)) :
    ∃ pipeline told world, executed? settings line = some pipeline ∧ pipeline.builtin? = none ∧
      announce host settings pipeline s = .ok () told ∧
      host.flush .out told.world = (.ok (), world) ∧
      (runStages host.toSystem (stagesOf host.toSystem told.world pipeline) world).1 = result := by
  unfold endOf? at h
  split at h
  · cases h
  · next pipeline hx =>
    split at h
    · cases h
    · next told ha =>
      split at h
      · split at h <;> cases h
      · next hb =>
        split at h
        · next world hf =>
          simp only [Option.some.injEq, LineEnd.processes.injEq] at h
          exact ⟨pipeline, told, world, hx, hb, ha, hf, h⟩
        · cases h

section Terminal

variable {other : Host σ}

theorem printLine_of_terminal (h : host.toTerminal = other.toTerminal) :
    printLine host = printLine other := by
  funext channel line
  rw [printLine, printLine, print, print, h]

theorem announce_of_terminal (h : host.toTerminal = other.toTerminal) :
    announce host settings pipeline = announce other settings pipeline := by
  rw [announce, announce, printLine_of_terminal h]

theorem reportFrom_of_terminal (h : host.toTerminal = other.toTerminal) (stages : List StageEnd) :
    reportFrom host stages = reportFrom other stages := by
  induction stages with
  | nil => rfl
  | cons stage rest ih => rw [reportFrom, reportFrom, ih, printLine_of_terminal h]

theorem conclude_of_terminal (h : host.toTerminal = other.toTerminal)
    (result : Except Aborted Completion) : conclude host result = conclude other result := by
  cases result with
  | ok completion => rw [conclude, conclude, reportFrom_of_terminal h]
  | error cause => rw [conclude, conclude, printLine_of_terminal h]

end Terminal

theorem runProcesses_of_flush {stages : List Stage} {s : ShellState σ} {w : σ}
    (hf : host.flush .out s.world = (.ok (), w)) :
    runProcesses host stages s = conclude host (runStages host.toSystem stages w).1
      { s with world := (runStages host.toSystem stages w).2 } := by
  have hflush : onWorld (host.flush .out) s = .ok () { s with world := w } := by
    simp only [onWorld, hf]
  have hran : attempt (runStages host.toSystem stages) { s with world := w } =
      .ok (runStages host.toSystem stages w).1
        { s with world := (runStages host.toSystem stages w).2 } := rfl
  rw [runProcesses, bind_of_ok hflush, bind_of_ok hran]

theorem runLine_of_completion {s : ShellState σ} {completion : Completion}
    (h : endOf? host settings line s = some (.processes (.ok completion))) :
    ∃ t, runLine host settings line s = (do
      reportFrom host completion.neverRan
      remember completion.status : ShellM σ Unit) t := by
  obtain ⟨pipeline, told, world, hx, hb, ha, hf, hr⟩ := endOf?_eq_processes h
  let stages := stagesOf host.toSystem told.world pipeline
  refine ⟨{ told with world := (runStages host.toSystem stages world).2 }, ?_⟩
  rw [runLine_executed hx, bind_of_ok ha, carryOut_processes hb, runProcesses_of_flush hf, hr]
  rfl

end Shell

end PipeShell
