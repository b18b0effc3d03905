import PipeShell.Proofs.LineCourse
import PipeShell.Proofs.MachineDirectory

/-!
# When a line fails

A line fails only when its terminal does, and then the shell and its directory are as they were:
nothing that changes them comes before the last word of a line that fails.
-/
namespace PipeShell

variable {σ τ δ α : Type}

def ShellState.traced (s : ShellState σ) : ShellState (Traced σ) :=
  ⟨s.running, s.status, s.prompts, ⟨s.world, []⟩⟩

def afterwards {ε : Type} : EStateM.Result ε σ α → σ
  | .ok _ after => after
  | .error _ after => after

theorem ShellM.Alike.afterwards {R : τ → σ → Prop}
    {x : EStateM.Result Fault (ShellState τ) α} {y : EStateM.Result Fault (ShellState σ) α}
    (h : ShellM.Alike R x y) : (PipeShell.afterwards x).Alike R (PipeShell.afterwards y) := by
  cases h with
  | ok _ hs => exact hs
  | error _ hs => exact hs

theorem ShellState.traced_alike (s : ShellState σ) :
    ShellState.Alike (fun t w => t.world = w) s.traced s :=
  ⟨rfl, rfl, rfl, rfl⟩

namespace Shell

variable (host : Host σ) (settings : Settings) (line : String) (s : ShellState σ)

/-- What a line asks of its host, with the answers. -/
def lineLog : List Act := (afterwards (runLine host.traced settings line s.traced)).world.log

theorem runLine_traced :
    ShellM.Alike (fun t w => t.world = w) (runLine host.traced settings line s.traced)
      (runLine host settings line s) :=
  host.traced_alike.runLine settings line s.traced_alike

variable {host} {directory : σ → δ}

/-- A line takes its course, or it breaks off with its fault, as on the traced host. -/
theorem runLine_course (h : host.KeepsDirectory directory) :
    Ends (runLine host settings line s)
      (fun _ after => ∃ t, Course host directory settings line s.traced t ∧
        ShellState.Alike (fun t w => t.world = w) t after ∧
        lineLog host settings line s = t.world.log)
      (fun fault after => ∃ t, Broke directory s.traced fault t ∧
        ShellState.Alike (fun t w => t.world = w) t after ∧
        lineLog host settings line s = t.world.log) := by
  have ha := runLine_traced host settings line s
  have he := h.runLine_ends (s := s.traced) settings line
  unfold lineLog
  generalize runLine host.traced settings line s.traced = traced at ha he ⊢
  generalize runLine host settings line s = result at ha ⊢
  cases ha with
  | ok _ hs => exact ⟨_, he, hs, rfl⟩
  | error fault hs => exact ⟨_, he, hs, rfl⟩

variable (host)

/-- A line fails only with a fault of its terminal, and then nothing has become of it. -/
theorem runLine_of_fault (directory : σ → δ) :
    (faults (lineLog host settings line s) = [] →
      ∃ after, runLine host settings line s = .ok () after) ∧
    (∀ fault after, runLine host settings line s = .error fault after →
      fault ∈ faults (lineLog host settings line s) ∧
      after.running = s.running ∧ after.status = s.status ∧
      (host.KeepsDirectory directory → directory after.world = directory s.world)) := by
  have he := runLine_course settings line s host.keepsNothing
  have hd := fun h : host.KeepsDirectory directory => runLine_course settings line s h
  generalize runLine host settings line s = result at he hd ⊢
  cases result with
  | ok _ after => exact ⟨fun _ => ⟨after, rfl⟩, fun fault after hf => by cases hf⟩
  | error fault after =>
    obtain ⟨t, hbroke, ha, hl⟩ := he
    have hfault : fault ∈ faults (lineLog host settings line s) := hl ▸ hbroke.faults
    refine ⟨fun hn => ?_, fun fault' after' hf => ?_⟩
    · rw [hn] at hfault
      cases hfault
    · cases hf
      obtain ⟨words, last, hspoke, -⟩ := hbroke
      refine ⟨hfault, ha.running.symm.trans hspoke.running, ha.status.symm.trans hspoke.status,
        fun h => ?_⟩
      obtain ⟨t, ⟨words, last, hspoke, -⟩, ha, -⟩ := hd h
      rw [← ha.world, hspoke.directory]
      rfl

/-- A machine without files whose screen takes all text. -/
def emptyMachine : Machine where
  tree := .empty
  directory := Machine.FileTree.root
  searchPath := none
  launch _ _ _ := .error .tryAgain

def fullMachine : Machine :=
  { emptyMachine with screen := ⟨{ limit := some 0 }, { limit := some 0 }⟩ }

/-- Where neither channel takes a byte, `rc` fails, and the status that it could not print stays. -/
theorem runLine_of_fault_full :
    ∃ after, runLine Machine.host {} "rc" { status := 3, world := fullMachine } =
        .error .streamFull after ∧
      after.running = true ∧ after.status = 3 ∧
      after.world.directory = Machine.FileTree.root := by
  have hx : executed? {} "rc" = some ⟨⟨Builtin.rc.name, []⟩, []⟩ := rfl
  obtain ⟨after, he⟩ : ∃ after, runLine Machine.host {} "rc" { status := 3, world := fullMachine } =
      .error .streamFull after := by
    have hb : Pipeline.builtin? ⟨⟨Builtin.rc.name, []⟩, []⟩ = some .rc := rfl
    rw [runLine_executed hx, carryOut_builtin hb]
    exact ⟨_, rfl⟩
  obtain ⟨-, hr, hs, hd⟩ := (runLine_of_fault Machine.host {} "rc"
    { status := 3, world := fullMachine } Machine.directory).2 .streamFull after he
  exact ⟨after, he, hr, hs, hd Machine.host_keepsDirectory⟩

end Shell

end PipeShell
