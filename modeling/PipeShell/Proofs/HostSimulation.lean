import Mathlib
import PipeShell.Shell

/-!
# Two hosts that answer alike

A relation between the states of two hosts is a simulation when related states get equal answers to
every request and are related again afterwards. Whatever is run on both hosts from related states
then has equal results. With one host on both sides this says which part of its state a run of
processes leaves alone.
-/
namespace PipeShell

variable {τ σ α β : Type} {R : τ → σ → Prop}

/-- Equal answers, and states that are related. -/
def Agree (R : τ → σ → Prop) (x : α × τ) (y : α × σ) : Prop :=
  ∃ answer t w, x = (answer, t) ∧ y = (answer, w) ∧ R t w

/-- Two systems that answer alike to all that a run of processes asks for. -/
structure System.Alike (R : τ → σ → Prop) (fine : System τ) (coarse : System σ) : Prop where
  openStreams {t w} : R t w → Agree R (fine.openStreams t) (coarse.openStreams w)
  openPipe {t w} (onExec : OnExec) :
    R t w → Agree R (fine.openPipe onExec t) (coarse.openPipe onExec w)
  close {t w} (handle : Handle) : R t w → R (fine.close handle t) (coarse.close handle w)
  start {t w} (request : StartRequest) :
    R t w → Agree R (fine.start request t) (coarse.start request w)
  wait {t w} (process : ProcessId) :
    R t w → Agree R (fine.wait process t) (coarse.wait process w)

/-- Two hosts that answer alike to all that a shell asks for. -/
structure Host.Alike (R : τ → σ → Prop) (fine : Host τ) (coarse : Host σ) : Prop extends
    System.Alike R fine.toSystem coarse.toSystem where
  searchPath {t w} : R t w → fine.searchPath t = coarse.searchPath w
  fileInfo {t w} (path : String) : R t w → fine.fileInfo t path = coarse.fileInfo w path
  changeDirectory {t w} (path : String) :
    R t w → Agree R (fine.changeDirectory path t) (coarse.changeDirectory path w)
  write {t w} (channel : Channel) (bytes : ByteArray) :
    R t w → Agree R (fine.write channel bytes t) (coarse.write channel bytes w)
  flush {t w} (channel : Channel) :
    R t w → Agree R (fine.flush channel t) (coarse.flush channel w)

theorem Host.Alike.refl (host : Host σ) : Host.Alike Eq host host where
  openStreams := by rintro t _ rfl; exact ⟨_, _, _, rfl, rfl, rfl⟩
  openPipe onExec := by rintro rfl; exact ⟨_, _, _, rfl, rfl, rfl⟩
  close handle := by rintro rfl; rfl
  start request := by rintro rfl; exact ⟨_, _, _, rfl, rfl, rfl⟩
  wait process := by rintro rfl; exact ⟨_, _, _, rfl, rfl, rfl⟩
  searchPath := by rintro t _ rfl; rfl
  fileInfo path := by rintro rfl; rfl
  changeDirectory path := by rintro rfl; exact ⟨_, _, _, rfl, rfl, rfl⟩
  write channel bytes := by rintro rfl; exact ⟨_, _, _, rfl, rfl, rfl⟩
  flush channel := by rintro rfl; exact ⟨_, _, _, rfl, rfl, rfl⟩

namespace System.Alike

variable {fine : System τ} {coarse : System σ} {t : τ} {w : σ}

section
open Conduits

theorem closeAll (h : System.Alike R fine coarse) (handles : List Handle) (ht : R t w) :
    R (closeAll fine handles t) (closeAll coarse handles w) := by
  induction handles generalizing t w with
  | nil => exact ht
  | cons handle handles ih => exact ih (h.close handle ht)

theorem openFrom (h : System.Alike R fine coarse) (opened : List Conduit) (count : Nat)
    (ht : R t w) :
    Agree R (openFrom fine opened count t) (openFrom coarse opened count w) := by
  induction count generalizing opened t w with
  | zero => exact ⟨_, t, w, rfl, rfl, ht⟩
  | succ count ih =>
    obtain ⟨answer, t', w', hf, hc, hr⟩ := h.openPipe .close ht
    rw [Conduits.openFrom, Conduits.openFrom, hf, hc]
    cases answer with
    | ok ends => exact ih _ hr
    | error cause => exact ⟨_, _, _, rfl, rfl, h.closeAll _ hr⟩

end

section
open Execution

theorem startStage (h : System.Alike R fine coarse) (stage : Stage) (input output : Option Handle)
    (ht : R t w) :
    Agree R (startStage fine stage input output t) (startStage coarse stage input output w) := by
  unfold Execution.startStage
  cases stage.target with
  | builtin kind => exact ⟨_, _, _, rfl, rfl, h.closeAll _ ht⟩
  | unknown => exact ⟨_, _, _, rfl, rfl, h.closeAll _ ht⟩
  | external path =>
    obtain ⟨answer, t', w', hf, hc, hr⟩ :=
      h.start ⟨path, stage.command.name, stage.command.args, input, output⟩ ht
    simp only [hf, hc]
    cases answer with
    | ok process => exact ⟨_, _, _, rfl, rfl, h.closeAll _ hr⟩
    | error cause =>
      cases he : endingOfFault cause with
      | some ending => simpa only [he] using ⟨_, _, _, rfl, rfl, h.closeAll _ hr⟩
      | none => simpa only [he] using ⟨_, _, _, rfl, rfl, h.closeAll _ hr⟩

theorem startFrom (h : System.Alike R fine coarse) (last index : Nat) (plumbing : Plumbing)
    (stages : List Stage) (ht : R t w) :
    ∃ launched failure plumbing' t' w',
      startFrom fine last index plumbing t stages = ⟨launched, failure, plumbing', t'⟩ ∧
      startFrom coarse last index plumbing w stages = ⟨launched, failure, plumbing', w'⟩ ∧
      R t' w' := by
  induction stages generalizing index plumbing t w with
  | nil => exact ⟨_, _, _, _, _, rfl, rfl, ht⟩
  | cons stage rest ih =>
    obtain ⟨answer, t', w', hf, hc, hr⟩ := h.startStage stage (plumbing.takeInput index).1
      ((plumbing.takeInput index).2.takeOutput index last).1 ht
    simp only [Execution.startFrom, hf, hc]
    cases answer with
    | error cause => exact ⟨_, _, _, _, _, rfl, rfl, hr⟩
    | ok launch =>
      obtain ⟨_, _, _, _, _, hl, hl', hr'⟩ :=
        ih (index + 1) ((plumbing.takeInput index).2.takeOutput index last).2 hr
      simp only [hl, hl']
      exact ⟨_, _, _, _, _, rfl, rfl, hr'⟩

theorem waitFrom (h : System.Alike R fine coarse) (position : Nat)
    (launched : List (String × Attempt)) (ht : R t w) :
    ∃ ended failure t' w', waitFrom fine position t launched = ⟨ended, failure, t'⟩ ∧
      waitFrom coarse position w launched = ⟨ended, failure, w'⟩ ∧ R t' w' := by
  induction launched generalizing position t w with
  | nil => exact ⟨_, _, _, _, rfl, rfl, ht⟩
  | cons entry rest ih =>
    obtain ⟨name, attempt⟩ := entry
    cases attempt with
    | ended ending =>
      obtain ⟨_, _, _, _, hf, hc, hr⟩ := ih (position + 1) ht
      simp only [Execution.waitFrom, hf, hc]
      exact ⟨_, _, _, _, rfl, rfl, hr⟩
    | running process =>
      obtain ⟨answer, _, _, hf, hc, hr⟩ := h.wait process ht
      obtain ⟨_, _, _, _, hf', hc', hr'⟩ := ih (position + 1) hr
      cases answer with
      | ok word =>
        simp only [Execution.waitFrom, hf, hc, hf', hc']
        exact ⟨_, _, _, _, rfl, rfl, hr'⟩
      | error cause =>
        simp only [Execution.waitFrom, hf, hc, hf', hc']
        exact ⟨_, _, _, _, rfl, rfl, hr'⟩

/-- A run on two systems that answer alike has one result. -/
theorem run (h : System.Alike R fine coarse) (stages : List Stage) (outer : OuterStreams)
    (ht : R t w) : Agree R (run fine stages outer t) (run coarse stages outer w) := by
  obtain ⟨answer, t', w', hf, hc, hr⟩ := h.openFrom [] (stages.length - 1) ht
  simp only [Execution.run, Conduits.openFor, hf, hc]
  cases answer with
  | error cause => exact ⟨_, _, _, rfl, rfl, h.closeAll _ hr⟩
  | ok pipes =>
    obtain ⟨launched, failure, plumbing, _, _, hs, hs', hr'⟩ := h.startFrom (stages.length - 1) 0
      ⟨some outer.input, some outer.output, pipes⟩ stages hr
    obtain ⟨_, lost, _, _, he, he', hr''⟩ :=
      h.waitFrom 1 launched (h.closeAll plumbing.held hr')
    simp only [hs, hs', he, he']
    cases failure.or lost with
    | none => exact ⟨_, _, _, rfl, rfl, hr''⟩
    | some failure => exact ⟨_, _, _, rfl, rfl, hr''⟩

theorem runStages (h : System.Alike R fine coarse) (stages : List Stage) (ht : R t w) :
    Agree R (Shell.runStages fine stages t) (Shell.runStages coarse stages w) := by
  obtain ⟨answer, t', w', hf, hc, hr⟩ := h.openStreams ht
  simp only [Shell.runStages, hf, hc]
  cases answer with
  | error cause => exact ⟨_, _, _, rfl, rfl, hr⟩
  | ok outer =>
    obtain ⟨answer, _, _, hf, hc, hr⟩ := h.run stages outer hr
    simp only [hf, hc]
    cases answer with
    | ok completion => exact ⟨_, _, _, rfl, rfl, hr⟩
    | error cause => exact ⟨_, _, _, rfl, rfl, hr⟩

end

end System.Alike

/-- Whatever is asked of the system, what holds of its state holds afterwards. -/
structure System.Preserves (system : System σ) (holds : σ → Prop) : Prop where
  openStreams {w : σ} : holds w → holds (system.openStreams w).2
  openPipe (onExec : OnExec) {w : σ} : holds w → holds (system.openPipe onExec w).2
  close (handle : Handle) {w : σ} : holds w → holds (system.close handle w)
  start (request : StartRequest) {w : σ} : holds w → holds (system.start request w).2
  wait (process : ProcessId) {w : σ} : holds w → holds (system.wait process w).2

theorem System.Preserves.alike {system : System σ} {holds : σ → Prop}
    (h : system.Preserves holds) :
    System.Alike (fun t w => t = w ∧ holds t) system system where
  openStreams := by
    rintro t _ ⟨rfl, ht⟩
    exact ⟨_, _, _, rfl, rfl, rfl, h.openStreams ht⟩
  openPipe onExec := by
    rintro ⟨rfl, ht⟩
    exact ⟨_, _, _, rfl, rfl, rfl, h.openPipe onExec ht⟩
  close handle := by
    rintro ⟨rfl, ht⟩
    exact ⟨rfl, h.close handle ht⟩
  start request := by
    rintro ⟨rfl, ht⟩
    exact ⟨_, _, _, rfl, rfl, rfl, h.start request ht⟩
  wait process := by
    rintro ⟨rfl, ht⟩
    exact ⟨_, _, _, rfl, rfl, rfl, h.wait process ht⟩

theorem System.Preserves.runStages {system : System σ} {holds : σ → Prop}
    (h : system.Preserves holds) (stages : List Stage) {w : σ} (hw : holds w) :
    holds (Shell.runStages system stages w).2 := by
  obtain ⟨_, _, _, he, _, rfl, ht⟩ := h.alike.runStages stages ⟨rfl, hw⟩
  rw [he]
  exact ht

/-- Whatever is asked of the host, what holds of its state holds afterwards. -/
structure Host.Preserves (host : Host σ) (holds : σ → Prop) : Prop extends
    host.toSystem.Preserves holds where
  changeDirectory (path : String) {w : σ} : holds w → holds (host.changeDirectory path w).2
  write (channel : Channel) (bytes : ByteArray) {w : σ} :
    holds w → holds (host.write channel bytes w).2
  flush (channel : Channel) {w : σ} : holds w → holds (host.flush channel w).2

theorem Host.Preserves.alike {host : Host σ} {holds : σ → Prop} (h : host.Preserves holds) :
    Host.Alike (fun t w => t = w ∧ holds t) host host where
  toAlike := h.toPreserves.alike
  searchPath := by
    rintro t _ ⟨rfl, -⟩
    rfl
  fileInfo path := by
    rintro ⟨rfl, -⟩
    rfl
  changeDirectory path := by
    rintro ⟨rfl, ht⟩
    exact ⟨_, _, _, rfl, rfl, rfl, h.changeDirectory path ht⟩
  write channel bytes := by
    rintro ⟨rfl, ht⟩
    exact ⟨_, _, _, rfl, rfl, rfl, h.write channel bytes ht⟩
  flush channel := by
    rintro ⟨rfl, ht⟩
    exact ⟨_, _, _, rfl, rfl, rfl, h.flush channel ht⟩

/-- The requests of a run of processes leave alone what `read` reads. -/
structure System.Keeps (system : System σ) (read : σ → α) : Prop where
  openStreams (w : σ) : read (system.openStreams w).2 = read w
  openPipe (onExec : OnExec) (w : σ) : read (system.openPipe onExec w).2 = read w
  close (handle : Handle) (w : σ) : read (system.close handle w) = read w
  start (request : StartRequest) (w : σ) : read (system.start request w).2 = read w
  wait (process : ProcessId) (w : σ) : read (system.wait process w).2 = read w

namespace System.Keeps

variable {system : System σ} {read : σ → α}

theorem preserves (h : system.Keeps read) (value : α) :
    system.Preserves fun w => read w = value where
  openStreams hw := (h.openStreams _).trans hw
  openPipe onExec _ hw := (h.openPipe onExec _).trans hw
  close handle _ hw := (h.close handle _).trans hw
  start request _ hw := (h.start request _).trans hw
  wait process _ hw := (h.wait process _).trans hw

theorem runStages (h : system.Keeps read) (stages : List Stage) (w : σ) :
    read (Shell.runStages system stages w).2 = read w :=
  (h.preserves (read w)).runStages stages rfl

end System.Keeps

end PipeShell
