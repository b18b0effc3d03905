import PipeShell.Proofs.SessionStatus

/-!
# A session, line by line

The loop shows its prompt, carries out a line, and goes on while the session runs. What a line does
never depends on the prompts, so the loop does what its lines do one after the other, and its end is
the farewell, the fault of a line or the fault of the source.
-/
namespace PipeShell

variable {σ τ α β : Type}

def ShellState.withPrompts (s : ShellState σ) (prompts : List String) : ShellState σ :=
  { s with prompts }

theorem ShellState.withPrompts_self (s : ShellState σ) : s.withPrompts s.prompts = s := rfl

namespace ShellM

def resultWith (prompts : List String) :
    EStateM.Result Fault (ShellState σ) α → EStateM.Result Fault (ShellState σ) α
  | .ok value after => .ok value (after.withPrompts prompts)
  | .error fault after => .error fault (after.withPrompts prompts)

/-- The action neither looks at the prompts nor changes them. -/
def Promptless (x : ShellM σ α) : Prop :=
  ∀ (s : ShellState σ) (prompts : List String), x (s.withPrompts prompts) = resultWith prompts (x s)

theorem promptless_pure (value : α) : Promptless (pure value : ShellM σ α) := fun _ _ => rfl

theorem promptless_bind {x : ShellM σ α} {f : α → ShellM σ β} (hx : Promptless x)
    (hf : ∀ value, Promptless (f value)) : Promptless (x >>= f) := by
  intro s prompts
  change EStateM.bind x f _ = resultWith prompts (EStateM.bind x f s)
  unfold EStateM.bind
  rw [hx]
  cases x s with
  | ok value after => exact hf value after prompts
  | error fault after => rfl

theorem promptless_onWorld (operation : σ → Except Fault α × σ) :
    Promptless (onWorld operation) := by
  intro s prompts
  simp only [onWorld, ShellState.withPrompts]
  split <;> rfl

theorem promptless_attempt {ε : Type} (operation : σ → Except ε α × σ) :
    Promptless (attempt operation) := fun _ _ => rfl

theorem promptless_remember (status : Int32) : Promptless (remember status : ShellM σ Unit) :=
  fun _ _ => rfl

theorem promptless_endSession : Promptless (endSession : ShellM σ Unit) := fun _ _ => rfl

end ShellM

namespace Builtin

open ShellM

variable (host : Host σ)

theorem promptless_fail (reason : String) : Promptless (fail host reason) :=
  promptless_bind (promptless_onWorld _) fun _ => promptless_pure _

theorem promptless_present (text : String) : Promptless (present host text) := by
  refine promptless_bind (promptless_attempt _) fun answer => ?_
  cases answer with
  | ok _ => exact promptless_pure _
  | error fault => exact promptless_fail host _

theorem promptless_changeTo (targets : List String) : Promptless (changeTo host targets) := by
  cases targets with
  | nil => exact promptless_pure _
  | cons target rest =>
    refine promptless_bind (promptless_attempt _) fun answer => ?_
    cases answer with
    | ok _ => exact promptless_pure _
    | error fault => exact promptless_fail host _

theorem promptless_execute (kind : Builtin) (positionals : List String) :
    Promptless (execute host kind positionals) := by
  cases kind with
  | exit => exact promptless_bind promptless_endSession fun _ => promptless_pure _
  | cd => exact promptless_changeTo host positionals
  | rc => exact fun s prompts => promptless_present host (toString s.status ++ "\n") s prompts
  | dragon => exact promptless_present host _

theorem promptless_run (kind : Builtin) (args : List String) :
    Promptless (run host kind args) := by
  unfold run
  cases kind.grammar.read args with
  | ok values => exact promptless_execute host kind values.positionals
  | error stop =>
    cases stop with
    | help text => exact promptless_bind (promptless_onWorld _) fun _ => promptless_pure _
    | refused cause => exact promptless_fail host _

end Builtin

namespace Shell

open ShellM

variable (host : Host σ)

theorem promptless_reportFrom (stages : List StageEnd) : Promptless (reportFrom host stages) := by
  induction stages with
  | nil => exact promptless_pure _
  | cons stage rest ih => exact promptless_bind (promptless_onWorld _) fun _ => ih

theorem promptless_runProcesses (stages : List Stage) : Promptless (runProcesses host stages) := by
  refine promptless_bind (promptless_onWorld _) fun _ => ?_
  refine promptless_bind (promptless_attempt _) fun answer => ?_
  cases answer with
  | ok completion =>
    exact promptless_bind (promptless_reportFrom host _) fun _ => promptless_remember _
  | error cause => exact promptless_bind (promptless_onWorld _) fun _ => promptless_remember _

theorem promptless_carryOut (pipeline : Pipeline) : Promptless (carryOut host pipeline) := by
  cases hb : pipeline.builtin? with
  | some kind =>
    rw [carryOut_builtin hb]
    exact promptless_bind (Builtin.promptless_run host kind _) fun _ => promptless_remember _
  | none =>
    intro s prompts
    rw [carryOut_processes hb, carryOut_processes hb]
    exact promptless_runProcesses host _ s prompts

theorem promptless_announce (settings : Settings) (pipeline : Pipeline) :
    Promptless (announce host settings pipeline) := by
  unfold announce
  cases announcement? settings pipeline with
  | some text => exact promptless_onWorld _
  | none => exact promptless_pure _

theorem promptless_runLine (settings : Settings) (line : String) :
    Promptless (runLine host settings line) := by
  cases hp : Pipeline.ofLine settings.maxCommands line with
  | error cause =>
    rw [runLine_refused hp]
    exact promptless_onWorld _
  | ok pipeline =>
    cases hx : executed? settings line with
    | none =>
      rw [runLine_shown hp hx]
      exact promptless_announce host settings pipeline
    | some executed =>
      rw [runLine_executed hx]
      exact promptless_bind (promptless_announce host settings executed) fun _ =>
        promptless_carryOut host executed

/-- The lines are carried out one after the other: the session goes on before each, and none
fails. -/
inductive Carries (host : Host σ) (settings : Settings) :
    ShellState σ → List String → ShellState σ → Prop
  | nil (s : ShellState σ) : Carries host settings s [] s
  | cons {s t last : ShellState σ} {line : String} {rest : List String} :
    s.running = true → runLine host settings line s = .ok () t →
    Carries host settings t rest last → Carries host settings s (line :: rest) last

variable {host} {settings : Settings} {line : String} {lines : List String}
  {s t last : ShellState σ}

theorem runLine_of_untroubled (hq : faults (lineLog host settings line s) = []) :
    runLine host settings line s = .ok () (afterLine host settings s line) := by
  have he := runLine_course settings line s host.keepsNothing
  unfold afterLine
  generalize runLine host settings line s = result at he ⊢
  cases result with
  | ok _ after => rfl
  | error fault after =>
    obtain ⟨t, hbroke, -, hl⟩ := he
    have hfault : fault ∈ ([] : List Fault) := hq ▸ hl ▸ hbroke.faults
    cases hfault

/-- From any state the first lines are carried out up to the end of the session or of the lines,
unless one of them fails. -/
theorem carries_or_fails (host : Host σ) (settings : Settings) (s : ShellState σ)
    (lines : List String) :
    (∃ m last, m ≤ lines.length ∧ Carries host settings s (lines.take m) last ∧
      (m < lines.length → last.running = false)) ∨
    ∃ before line rest last fault broken, lines = before ++ line :: rest ∧
      Carries host settings s before last ∧ last.running = true ∧
      runLine host settings line last = .error fault broken := by
  induction lines generalizing s with
  | nil => exact .inl ⟨0, s, Nat.le_refl _, .nil s, fun h => absurd h (Nat.lt_irrefl 0)⟩
  | cons line rest ih =>
    cases hs : s.running with
    | false => exact .inl ⟨0, s, Nat.zero_le _, .nil s, fun _ => hs⟩
    | true =>
      cases hr : runLine host settings line s with
      | error fault broken => exact .inr ⟨[], line, rest, s, fault, broken, rfl, .nil s, hs, hr⟩
      | ok value t =>
        rcases ih t with ⟨m, last, hm, hc, he⟩ | ⟨before, failing, later, last, fault, broken, rfl,
          hc, hl, hf⟩
        · refine .inl ⟨m + 1, last, Nat.succ_le_succ hm, ?_, fun h => he (Nat.lt_of_succ_lt_succ h)⟩
          rw [List.take_succ_cons]
          exact .cons hs hr hc
        · exact .inr ⟨line :: before, failing, later, last, fault, broken, rfl, .cons hs hr hc, hl,
            hf⟩

/-! ### The loop -/

theorem loop_ended (hs : s.running = false) (answers : LineSource.Answers) :
    loop host settings answers s = farewell host s := by
  cases answers with
  | nil =>
    change (if s.running = true then _ else _ : ShellM σ Int32) s = _
    rw [hs]
    rfl
  | cons answer later =>
    change (if s.running = true then _ else _ : ShellM σ Int32) s = _
    rw [hs]
    rfl

theorem loop_nil (hs : s.running = true) :
    loop host settings [] s = farewell host (s.withPrompts (s.prompts ++ [settings.prompt])) := by
  change (if s.running = true then _ else _ : ShellM σ Int32) s = _
  rw [hs]
  rfl

theorem loop_source_fault (hs : s.running = true) (fault : Fault) (later : LineSource.Answers) :
    loop host settings (.error fault :: later) s =
      .error fault (s.withPrompts (s.prompts ++ [settings.prompt])) := by
  change (if s.running = true then _ else _ : ShellM σ Int32) s = _
  rw [hs]
  rfl

theorem loop_cons (hs : s.running = true) (line : String) (later : LineSource.Answers) :
    loop host settings (.ok line :: later) s =
      (do runLine host settings line; loop host settings later)
        (s.withPrompts (s.prompts ++ [settings.prompt])) := by
  change (if s.running = true then _ else _ : ShellM σ Int32) s = _
  rw [hs]
  rfl

theorem loop_line_fault (hs : s.running = true) {fault : Fault} {broken : ShellState σ}
    (hr : runLine host settings line s = .error fault broken) (later : LineSource.Answers) :
    loop host settings (.ok line :: later) s =
      .error fault (broken.withPrompts (s.prompts ++ [settings.prompt])) := by
  rw [loop_cons hs]
  change EStateM.bind (runLine host settings line) _ _ = _
  simp only [EStateM.bind, promptless_runLine host settings line s, hr, resultWith]

/-- The loop carries out its lines and then turns to what comes after them. -/
theorem loop_of_carries (h : Carries host settings s lines last) (shown : List String)
    (later : LineSource.Answers) :
    loop host settings (lines.map .ok ++ later) (s.withPrompts shown) =
      loop host settings later
        (last.withPrompts (shown ++ List.replicate lines.length settings.prompt)) := by
  induction h generalizing shown with
  | nil s => simp
  | @cons s t last line rest hs hr _ ih =>
    have hline : runLine host settings line (s.withPrompts (shown ++ [settings.prompt])) =
        .ok () (t.withPrompts (shown ++ [settings.prompt])) := by
      rw [promptless_runLine host settings line, hr]
      rfl
    have hrunning : (s.withPrompts shown).running = true := hs
    rw [List.map_cons, List.cons_append, loop_cons hrunning]
    refine (bind_of_ok hline).trans ?_
    rw [ih, List.length_cons, List.replicate_succ, List.append_assoc, List.singleton_append]

def promptsAfter (settings : Settings) (s : ShellState σ) (asked : Nat) : List String :=
  s.prompts ++ List.replicate asked settings.prompt

theorem loop_of_source_fault (h : Carries host settings s lines last) (hl : last.running = true)
    (fault : Fault) (later : LineSource.Answers) :
    loop host settings (lines.map .ok ++ .error fault :: later) s =
      .error fault (last.withPrompts (promptsAfter settings s (lines.length + 1))) := by
  have hloop := loop_of_carries h s.prompts (.error fault :: later)
  have hr : (last.withPrompts (promptsAfter settings s lines.length)).running = true := hl
  rw [s.withPrompts_self] at hloop
  rw [hloop, promptsAfter, List.replicate_succ', ← List.append_assoc]
  exact loop_source_fault hr fault later

theorem loop_of_line_fault (h : Carries host settings s lines last) (hl : last.running = true)
    {fault : Fault} {broken : ShellState σ}
    (hb : runLine host settings line last = .error fault broken) (later : LineSource.Answers) :
    loop host settings (lines.map .ok ++ .ok line :: later) s =
      .error fault (broken.withPrompts (promptsAfter settings s (lines.length + 1))) := by
  have hloop := loop_of_carries h s.prompts (.ok line :: later)
  have hr : (last.withPrompts (promptsAfter settings s lines.length)).running = true := hl
  have hline : runLine host settings line (last.withPrompts (promptsAfter settings s lines.length))
      = .error fault (broken.withPrompts (promptsAfter settings s lines.length)) := by
    rw [promptless_runLine host settings line, hb]
    rfl
  rw [s.withPrompts_self] at hloop
  rw [hloop, promptsAfter, List.replicate_succ', ← List.append_assoc]
  exact loop_line_fault hr hline later

/-- The loop does what its lines do up to the end of the session, and then says farewell. It asks
for one line more than it carries out if it is the input that ends. -/
theorem loop_of_lines {m : Nat} (hm : m ≤ lines.length)
    (hc : Carries host settings s (lines.take m) last)
    (he : m < lines.length → last.running = false) :
    loop host settings (lines.map .ok) s = farewell host (last.withPrompts
      (promptsAfter settings s (if last.running then lines.length + 1 else m))) := by
  have hlen : (lines.take m).length = m := List.length_take_of_le hm
  have hloop := loop_of_carries hc s.prompts ((lines.drop m).map .ok)
  rw [s.withPrompts_self, ← List.map_append, List.take_append_drop, hlen] at hloop
  cases hl : last.running with
  | false =>
    have hr : (last.withPrompts (promptsAfter settings s m)).running = false := hl
    exact hloop.trans (loop_ended hr _)
  | true =>
    -- a session that still runs has come to the end of its lines
    obtain rfl : m = lines.length := by
      by_contra hne
      have := he (by omega)
      simp [hl] at this
    have hr : (last.withPrompts (promptsAfter settings s lines.length)).running = true := hl
    rw [hloop, List.drop_length, promptsAfter, if_pos rfl, List.replicate_succ',
      ← List.append_assoc]
    exact loop_nil hr

end Shell

end PipeShell
