import PipeShell.Proofs.HostSimulation

/-!
# No process outlives its run

A run waits for every process that it started, also when it is given up after some of its stages
were started or when a wait fails. So the processes that were started and not waited for are none
again when it is over. A wait fails only for a process that is no child of the shell any more, so
after it there is nothing left to wait for either.
-/
namespace PipeShell

open Conduits Execution

variable {σ : Type}

/-- `live` reads from a state the processes that were started and not yet waited for. -/
structure System.Tracks (system : System σ) (live : σ → List ProcessId) : Prop where
  openStreams (w : σ) : live (system.openStreams w).2 = live w
  openPipe (onExec : OnExec) (w : σ) : live (system.openPipe onExec w).2 = live w
  close (handle : Handle) (w : σ) : live (system.close handle w) = live w
  started {request : StartRequest} {process : ProcessId} {w w' : σ} :
    system.start request w = (.ok process, w') → live w' = live w ++ [process]
  refused {request : StartRequest} {cause : Fault} {w w' : σ} :
    system.start request w = (.error cause, w') → live w' = live w
  wait (process : ProcessId) (w : σ) : live (system.wait process w).2 = (live w).erase process

def Execution.Attempt.process? : Attempt → Option ProcessId
  | .running process => some process
  | .ended _ => none

def Execution.processesOf (launched : List (String × Attempt)) : List ProcessId :=
  launched.filterMap fun launch => launch.2.process?

namespace System.Tracks

variable {system : System σ} {live : σ → List ProcessId}

theorem closeAll (h : system.Tracks live) (handles : List Handle) (w : σ) :
    live (closeAll system handles w) = live w := by
  induction handles generalizing w with
  | nil => rfl
  | cons handle handles ih => exact (ih _).trans (h.close handle w)

theorem openFrom (h : system.Tracks live) (opened : List Conduit) (count : Nat) (w : σ) :
    live (openFrom system opened count w).2 = live w := by
  induction count generalizing opened w with
  | zero => rfl
  | succ count ih =>
    have ho := h.openPipe .close w
    rw [Conduits.openFrom]
    split
    · next ends w' he =>
      rw [he] at ho
      exact (ih _ w').trans ho
    · next cause w' he =>
      rw [he] at ho
      exact (h.closeAll _ w').trans ho

theorem startStage (h : system.Tracks live) (stage : Stage) (input output : Option Handle)
    {w w' : σ} {attempt : Except Fault Attempt}
    (hs : startStage system stage input output w = (attempt, w')) :
    live w' = live w ++ (attempt.toOption.bind Attempt.process?).toList := by
  unfold Execution.startStage at hs
  obtain ⟨rfl, rfl⟩ := Prod.mk.inj hs
  rw [h.closeAll]
  cases stage.target with
  | builtin kind => simp [Except.toOption, Attempt.process?]
  | unknown => simp [Except.toOption, Attempt.process?]
  | external path =>
    simp only
    split
    · next process w'' hstart => simpa [Except.toOption, Attempt.process?] using h.started hstart
    · next cause w'' hstart =>
      cases endingOfFault cause with
      | some ending => simpa [Except.toOption, Attempt.process?] using h.refused hstart
      | none => simpa [Except.toOption, Attempt.process?] using h.refused hstart

/-- Starting stages adds the processes of those that were started, whether or not one failed. -/
theorem startFrom (h : system.Tracks live) (last index : Nat) (plumbing : Plumbing)
    (stages : List Stage) (w : σ) :
    live (startFrom system last index plumbing w stages).world =
      live w ++ processesOf (startFrom system last index plumbing w stages).launched := by
  induction stages generalizing index plumbing w with
  | nil => exact (List.append_nil _).symm
  | cons stage rest ih =>
    simp only [Execution.startFrom]
    split
    · next cause w' hs => simpa [processesOf, Except.toOption] using h.startStage stage _ _ hs
    · next attempt w' hs =>
      -- the process of this stage, if any, stands before those of the later ones
      have hstage := h.startStage stage _ _ hs
      rw [ih, hstage, List.append_assoc]
      cases attempt <;> rfl

theorem waitFrom (h : system.Tracks live) (position : Nat) {launched : List (String × Attempt)}
    {w : σ} (hw : live w = processesOf launched) :
    live (waitFrom system position w launched).world = [] := by
  induction launched generalizing position w with
  | nil => exact hw
  | cons launch rest ih =>
    obtain ⟨name, attempt⟩ := launch
    cases attempt with
    | ended ending => exact ih (position + 1) hw
    | running process =>
      have hlive : live w = process :: processesOf rest := hw
      have hreaped := h.wait process w
      rw [hlive, List.erase_cons_head] at hreaped
      rw [Execution.waitFrom]
      -- the wait reaps the process whether or not it fails
      split <;> next hwait => exact ih (position + 1) (by rwa [hwait] at hreaped)

theorem run (h : system.Tracks live) (stages : List Stage) (outer : OuterStreams) {w : σ}
    (hw : live w = []) : live (run system stages outer w).2 = [] := by
  have ho := h.openFrom [] (stages.length - 1) w
  unfold Execution.run Conduits.openFor
  split
  · next cause w' he =>
    rw [he] at ho
    rw [h.closeAll, ho, hw]
  · next pipes w' he =>
    rw [he] at ho
    have hstarted := h.startFrom (stages.length - 1) 0 ⟨some outer.input, some outer.output, pipes⟩
      stages w'
    simp only
    rw [ho, hw, List.nil_append] at hstarted
    -- the wait is the same for a run that succeeds and for one that is given up
    split <;> exact h.waitFrom 1 ((h.closeAll _ _).trans hstarted)

/-- After a run no process is left, whatever came of the run. -/
theorem runStages (h : system.Tracks live) (stages : List Stage) {w : σ} (hw : live w = []) :
    live (Shell.runStages system stages w).2 = [] := by
  have ho := h.openStreams w
  unfold Shell.runStages
  split
  · next cause w' he =>
    rw [he] at ho
    exact ho.trans hw
  · next outer w' he =>
    rw [he] at ho
    have hr := h.run stages outer (ho.trans hw)
    split <;> next hrun => rwa [hrun] at hr

end System.Tracks

end PipeShell
