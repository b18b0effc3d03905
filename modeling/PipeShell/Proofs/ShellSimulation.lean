import PipeShell.Proofs.HostTrace
import PipeShell.Proofs.LineExecution

/-!
# A shell on two hosts that answer alike

From states that agree but for their worlds, and with worlds that are related, each action of a
shell has the same result on both hosts and leads to such states again. So a line does on a traced
host what it does on the host itself.
-/
namespace PipeShell

variable {τ σ α β : Type} {R : τ → σ → Prop}

/-- Shells that remember the same, in related worlds. -/
structure ShellState.Alike (R : τ → σ → Prop) (s : ShellState τ) (s' : ShellState σ) : Prop where
  running : s.running = s'.running
  status : s.status = s'.status
  prompts : s.prompts = s'.prompts
  world : R s.world s'.world

theorem ShellState.Alike.same {holds : σ → Prop} {s : ShellState σ} (h : holds s.world) :
    s.Alike (fun t w => t = w ∧ holds t) s :=
  ⟨rfl, rfl, rfl, rfl, h⟩

namespace ShellM

/-- The same value or the same fault, from shells that are alike afterwards. -/
inductive Alike (R : τ → σ → Prop) : EStateM.Result Fault (ShellState τ) α →
    EStateM.Result Fault (ShellState σ) α → Prop
  | ok (value : α) {s : ShellState τ} {s' : ShellState σ} :
    s.Alike R s' → Alike R (.ok value s) (.ok value s')
  | error (fault : Fault) {s : ShellState τ} {s' : ShellState σ} :
    s.Alike R s' → Alike R (.error fault s) (.error fault s')

variable {s : ShellState τ} {s' : ShellState σ}

theorem alike_bind {x : ShellM τ α} {y : ShellM σ α} {f : α → ShellM τ β} {g : α → ShellM σ β}
    (h : Alike R (x s) (y s'))
    (hf : ∀ value t t', ShellState.Alike R t t' → Alike R (f value t) (g value t')) :
    Alike R ((x >>= f) s) ((y >>= g) s') := by
  change Alike R (EStateM.bind x f s) (EStateM.bind y g s')
  unfold EStateM.bind
  generalize x s = r at h ⊢
  generalize y s' = r' at h ⊢
  cases h with
  | ok value ht => exact hf value _ _ ht
  | error fault ht => exact .error fault ht

theorem alike_pure (value : α) (h : s.Alike R s') :
    Alike R ((pure value : ShellM τ α) s) ((pure value : ShellM σ α) s') := .ok value h

theorem alike_onWorld {x : τ → Except Fault α × τ} {y : σ → Except Fault α × σ}
    (h : s.Alike R s') (hxy : Agree R (x s.world) (y s'.world)) :
    Alike R (onWorld x s) (onWorld y s') := by
  obtain ⟨answer, t, w, hx, hy, hr⟩ := hxy
  have hs : ShellState.Alike R { s with world := t } { s' with world := w } :=
    ⟨h.running, h.status, h.prompts, hr⟩
  simp only [onWorld, hx, hy]
  cases answer with
  | ok value => exact .ok value hs
  | error fault => exact .error fault hs

theorem alike_attempt {ε : Type} {x : τ → Except ε α × τ} {y : σ → Except ε α × σ}
    (h : s.Alike R s') (hxy : Agree R (x s.world) (y s'.world)) :
    Alike R (attempt x s) (attempt y s') := by
  obtain ⟨answer, t, w, hx, hy, hr⟩ := hxy
  simp only [attempt, hx, hy]
  exact .ok answer ⟨h.running, h.status, h.prompts, hr⟩

theorem alike_remember (status : Int32) (h : s.Alike R s') :
    Alike R (remember status s) (remember status s') :=
  .ok () ⟨h.running, rfl, h.prompts, h.world⟩

theorem alike_endSession (h : s.Alike R s') : Alike R (endSession s) (endSession s') :=
  .ok () ⟨rfl, h.status, h.prompts, h.world⟩

end ShellM

namespace Host.Alike

open ShellM

variable {fine : Host τ} {coarse : Host σ} {s : ShellState τ} {s' : ShellState σ}

theorem printLine (h : Host.Alike R fine coarse) (channel : Channel) (line : String)
    (hs : s.Alike R s') :
    ShellM.Alike R (printLine fine channel line s) (printLine coarse channel line s') :=
  alike_onWorld hs (h.write channel _ hs.world)

theorem fail (h : Host.Alike R fine coarse) (reason : String) (hs : s.Alike R s') :
    ShellM.Alike R (Builtin.fail fine reason s) (Builtin.fail coarse reason s') :=
  alike_bind (h.printLine .err reason hs) fun _ _ _ ht => alike_pure _ ht

theorem present (h : Host.Alike R fine coarse) (text : String) (hs : s.Alike R s') :
    ShellM.Alike R (Builtin.present fine text s) (Builtin.present coarse text s') := by
  refine alike_bind (alike_attempt hs (h.write .out _ hs.world)) fun answer t t' ht => ?_
  cases answer with
  | ok _ => exact alike_pure _ ht
  | error fault => exact h.fail _ ht

theorem changeTo (h : Host.Alike R fine coarse) (targets : List String) (hs : s.Alike R s') :
    ShellM.Alike R (Builtin.changeTo fine targets s) (Builtin.changeTo coarse targets s') := by
  cases targets with
  | nil => exact alike_pure _ hs
  | cons target rest =>
    refine alike_bind (alike_attempt hs (h.changeDirectory target hs.world))
      fun answer t t' ht => ?_
    cases answer with
    | ok _ => exact alike_pure _ ht
    | error fault => exact h.fail _ ht

theorem execute (h : Host.Alike R fine coarse) (kind : Builtin) (positionals : List String)
    (hs : s.Alike R s') :
    ShellM.Alike R (Builtin.execute fine kind positionals s)
      (Builtin.execute coarse kind positionals s') := by
  cases kind with
  | exit => exact alike_bind (alike_endSession hs) fun _ _ _ ht => alike_pure _ ht
  | cd => exact h.changeTo positionals hs
  | rc =>
    change ShellM.Alike R (Builtin.present fine (toString s.status ++ "\n") s)
      (Builtin.present coarse (toString s'.status ++ "\n") s')
    rw [hs.status]
    exact h.present _ hs
  | dragon => exact h.present _ hs

theorem builtin (h : Host.Alike R fine coarse) (kind : Builtin) (args : List String)
    (hs : s.Alike R s') :
    ShellM.Alike R (Builtin.run fine kind args s) (Builtin.run coarse kind args s') := by
  unfold Builtin.run
  cases kind.grammar.read args with
  | ok values => exact h.execute kind values.positionals hs
  | error stop =>
    cases stop with
    | help text => exact alike_bind (h.printLine .out _ hs) fun _ _ _ ht => alike_pure _ ht
    | refused cause => exact h.fail _ hs

theorem reportFrom (h : Host.Alike R fine coarse) (stages : List StageEnd) (hs : s.Alike R s') :
    ShellM.Alike R (Shell.reportFrom fine stages s) (Shell.reportFrom coarse stages s') := by
  induction stages generalizing s s' with
  | nil => exact alike_pure _ hs
  | cons stage rest ih => exact alike_bind (h.printLine .err _ hs) fun _ _ _ ht => ih ht

theorem conclude (h : Host.Alike R fine coarse) (result : Except Shell.Aborted Completion)
    (hs : s.Alike R s') :
    ShellM.Alike R (Shell.conclude fine result s) (Shell.conclude coarse result s') := by
  cases result with
  | ok completion => exact alike_bind (h.reportFrom _ hs) fun _ _ _ ht => alike_remember _ ht
  | error cause => exact alike_bind (h.printLine .out _ hs) fun _ _ _ ht => alike_remember _ ht

theorem runProcesses (h : Host.Alike R fine coarse) (stages : List Stage) (hs : s.Alike R s') :
    ShellM.Alike R (Shell.runProcesses fine stages s) (Shell.runProcesses coarse stages s') := by
  refine alike_bind (alike_onWorld hs (h.flush .out hs.world)) fun _ t t' ht => ?_
  refine alike_bind (alike_attempt ht (h.toAlike.runStages stages ht.world))
    fun answer t t' ht => ?_
  cases answer with
  | ok completion => exact h.conclude (.ok completion) ht
  | error cause => exact h.conclude (.error cause) ht

theorem stagesOf (h : Host.Alike R fine coarse) {t : τ} {w : σ} (ht : R t w)
    (pipeline : Pipeline) :
    Shell.stagesOf fine.toSystem t pipeline = Shell.stagesOf coarse.toSystem w pipeline := by
  have hf : fine.fileInfo t = coarse.fileInfo w := funext fun path => h.fileInfo path ht
  simp only [Shell.stagesOf, Lookup.target, Lookup.find?, Lookup.searchFor, Lookup.searchPathOf, hf,
    h.searchPath ht]

theorem carryOut (h : Host.Alike R fine coarse) (pipeline : Pipeline) (hs : s.Alike R s') :
    ShellM.Alike R (Shell.carryOut fine pipeline s) (Shell.carryOut coarse pipeline s') := by
  cases hb : pipeline.builtin? with
  | some kind =>
    rw [Shell.carryOut_builtin hb, Shell.carryOut_builtin hb]
    exact alike_bind (h.builtin kind _ hs) fun status _ _ ht => alike_remember status ht
  | none =>
    rw [Shell.carryOut_processes hb, Shell.carryOut_processes hb, h.stagesOf hs.world]
    exact h.runProcesses _ hs

theorem announce (h : Host.Alike R fine coarse) (settings : Settings) (pipeline : Pipeline)
    (hs : s.Alike R s') :
    ShellM.Alike R (Shell.announce fine settings pipeline s)
      (Shell.announce coarse settings pipeline s') := by
  unfold Shell.announce
  cases Shell.announcement? settings pipeline with
  | some text => exact h.printLine .out text hs
  | none => exact alike_pure _ hs

theorem endOf? (h : Host.Alike R fine coarse) (settings : Settings) (line : String)
    (hs : s.Alike R s') :
    Shell.endOf? fine settings line s = Shell.endOf? coarse settings line s' := by
  unfold Shell.endOf?
  cases Shell.executed? settings line with
  | none => rfl
  | some pipeline =>
    have ha := h.announce settings pipeline hs
    simp only
    generalize Shell.announce fine settings pipeline s = told at ha ⊢
    generalize Shell.announce coarse settings pipeline s' = told' at ha ⊢
    cases ha with
    | error fault ht => rfl
    | @ok _ t t' ht =>
      cases pipeline.builtin? with
      | some kind =>
        have hb := h.builtin kind pipeline.first.args ht
        simp only
        generalize Builtin.run fine kind pipeline.first.args t = r at hb ⊢
        generalize Builtin.run coarse kind pipeline.first.args t' = r' at hb ⊢
        cases hb with
        | ok code _ => rfl
        | error fault _ => rfl
      | none =>
        obtain ⟨answer, w, w', hf, hc, hr⟩ := h.flush .out ht.world
        simp only [hf, hc]
        cases answer with
        | error fault => rfl
        | ok _ =>
          obtain ⟨result, _, _, hf, hc, -⟩ :=
            h.toAlike.runStages (Shell.stagesOf fine.toSystem t.world pipeline) hr
          rw [h.stagesOf ht.world pipeline] at hf hc
          simp only [h.stagesOf ht.world pipeline, hf, hc]

/-- A line comes to the same on two hosts that answer alike. -/
theorem runLine (h : Host.Alike R fine coarse) (settings : Settings) (line : String)
    (hs : s.Alike R s') :
    ShellM.Alike R (Shell.runLine fine settings line s)
      (Shell.runLine coarse settings line s') := by
  cases hp : Pipeline.ofLine settings.maxCommands line with
  | error cause =>
    rw [Shell.runLine_refused hp, Shell.runLine_refused hp]
    exact h.printLine .out _ hs
  | ok pipeline =>
    cases hx : Shell.executed? settings line with
    | none =>
      rw [Shell.runLine_shown hp hx, Shell.runLine_shown hp hx]
      exact h.announce settings pipeline hs
    | some executed =>
      rw [Shell.runLine_executed hx, Shell.runLine_executed hx]
      exact alike_bind (h.announce settings executed hs) fun _ _ _ ht => h.carryOut executed ht

end Host.Alike

end PipeShell
