import PipeShell.Proofs.ExecutionScenario
import PipeShell.Proofs.HostSimulation

/-!
# A host that notes what it is asked for

`Host.traced` does all that a host does and notes each request with its answer. It answers as the
host itself, so what a shell does on a host can be read off the notes.
-/
namespace PipeShell

variable {σ τ δ : Type}

inductive Utterance where
  | wrote (channel : Channel) (bytes : ByteArray) (answer : Except Fault Unit)
  | flushed (channel : Channel) (answer : Except Fault Unit)

def Utterance.fault? : Utterance → Option Fault
  | wrote _ _ (.error fault) | flushed _ (.error fault) => some fault
  | wrote _ _ (.ok _) | flushed _ (.ok _) => none

inductive Act where
  | said (utterance : Utterance)
  | moved (path : String) (answer : Except Fault Unit)
  | openedStreams (answer : Except Fault OuterStreams)
  | ran (event : Execution.Event)

def Act.said? : Act → Option Utterance
  | said utterance => some utterance
  | _ => none

def said (log : List Act) : List Utterance := log.filterMap Act.said?

def faults (log : List Act) : List Fault := (said log).filterMap Utterance.fault?

/-- A state with notes of what was asked for so far. -/
structure Traced (σ : Type) where
  world : σ
  log : List Act := []

def Traced.note {α : Type} (t : Traced σ) (act : α → Act) (r : α × σ) : α × Traced σ :=
  (r.1, ⟨r.2, t.log ++ [act r.1]⟩)

/-- Related worlds, and notes that go on alike after the first of each. -/
def Noted (R : τ → σ → Prop) (first second : List Act) (t : Traced τ) (w : Traced σ) : Prop :=
  R t.world w.world ∧ ∃ notes, t.log = first ++ notes ∧ w.log = second ++ notes

theorem Agree.noted {α : Type} {R : τ → σ → Prop} {t : Traced τ} {w : Traced σ}
    {x : α × τ} {y : α × σ} {first second notes : List Act} (h : Agree R x y) (act : α → Act)
    (ht : t.log = first ++ notes) (hw : w.log = second ++ notes) :
    Agree (Noted R first second) (t.note act x) (w.note act y) := by
  obtain ⟨answer, t', w', rfl, rfl, hr⟩ := h
  refine ⟨answer, _, _, rfl, rfl, hr, notes ++ [act answer], ?_, ?_⟩
  · rw [← List.append_assoc, ← ht]
  · rw [← List.append_assoc, ← hw]

namespace Host

/-- The host with notes of all that changes its state. -/
def traced (host : Host σ) : Host (Traced σ) where
  searchPath t := host.searchPath t.world
  fileInfo t := host.fileInfo t.world
  currentDirectory t := host.currentDirectory t.world
  changeDirectory path t := t.note (.moved path) (host.changeDirectory path t.world)
  openStreams t := t.note .openedStreams (host.openStreams t.world)
  openPipe onExec t :=
    t.note (fun answer => .ran (.opened onExec answer)) (host.openPipe onExec t.world)
  close handle t := ⟨host.close handle t.world, t.log ++ [.ran (.closed handle)]⟩
  start request t :=
    t.note (fun answer => .ran (.started request answer)) (host.start request t.world)
  wait process t := t.note (fun _ => .ran (.waited process)) (host.wait process t.world)
  write channel bytes t :=
    t.note (fun answer => .said (.wrote channel bytes answer)) (host.write channel bytes t.world)
  flush channel t :=
    t.note (fun answer => .said (.flushed channel answer)) (host.flush channel t.world)

theorem traced_alike (host : Host σ) :
    Host.Alike (fun t w => t.world = w) host.traced host where
  openStreams := by rintro t _ rfl; exact ⟨_, _, _, rfl, rfl, rfl⟩
  openPipe onExec := by rintro rfl; exact ⟨_, _, _, rfl, rfl, rfl⟩
  close handle := by rintro rfl; rfl
  start request := by rintro rfl; exact ⟨_, _, _, rfl, rfl, rfl⟩
  wait process := by rintro rfl; exact ⟨_, _, _, rfl, rfl, rfl⟩
  searchPath := by rintro t _ rfl; rfl
  fileInfo path := by rintro rfl; rfl
  changeDirectory path := by rintro rfl; exact ⟨_, _, _, rfl, rfl, rfl⟩
  write channel bytes := by rintro rfl; exact ⟨_, _, _, rfl, rfl, rfl⟩
  flush channel := by rintro rfl; exact ⟨_, _, _, rfl, rfl, rfl⟩

theorem Alike.traced {R : τ → σ → Prop} {fine : Host τ} {coarse : Host σ}
    (h : Host.Alike R fine coarse) (first second : List Act) :
    Host.Alike (Noted R first second) fine.traced coarse.traced where
  openStreams := by
    rintro t w ⟨hr, notes, ht, hw⟩
    exact Agree.noted (h.openStreams hr) .openedStreams ht hw
  openPipe onExec := by
    rintro ⟨hr, notes, ht, hw⟩
    exact Agree.noted (h.openPipe onExec hr) (fun answer => .ran (.opened onExec answer)) ht hw
  close handle := by
    rintro ⟨hr, notes, ht, hw⟩
    refine ⟨h.close handle hr, notes ++ [.ran (.closed handle)], ?_, ?_⟩
    · rw [← List.append_assoc, ← ht]
      rfl
    · rw [← List.append_assoc, ← hw]
      rfl
  start request := by
    rintro ⟨hr, notes, ht, hw⟩
    exact Agree.noted (h.start request hr) (fun answer => .ran (.started request answer)) ht hw
  wait process := by
    rintro ⟨hr, notes, ht, hw⟩
    exact Agree.noted (h.wait process hr) (fun _ => .ran (.waited process)) ht hw
  searchPath := by
    rintro t w ⟨hr, -⟩
    exact h.searchPath hr
  fileInfo path := by
    rintro ⟨hr, -⟩
    exact h.fileInfo path hr
  changeDirectory path := by
    rintro ⟨hr, notes, ht, hw⟩
    exact Agree.noted (h.changeDirectory path hr) (.moved path) ht hw
  write channel bytes := by
    rintro ⟨hr, notes, ht, hw⟩
    exact Agree.noted (h.write channel bytes hr)
      (fun answer => .said (.wrote channel bytes answer)) ht hw
  flush channel := by
    rintro ⟨hr, notes, ht, hw⟩
    exact Agree.noted (h.flush channel hr) (fun answer => .said (.flushed channel answer)) ht hw

theorem traced_keeps_said (host : Host σ) : host.traced.toSystem.Keeps fun t => said t.log where
  openStreams t := by simp [traced, Traced.note, said, Act.said?]
  openPipe onExec t := by simp [traced, Traced.note, said, Act.said?]
  close handle t := by simp [traced, said, Act.said?]
  start request t := by simp [traced, Traced.note, said, Act.said?]
  wait process t := by simp [traced, Traced.note, said, Act.said?]

/-- What requests leave alone in a host, they leave alone when it is traced. -/
theorem traced_keeps {host : Host σ} {read : σ → δ} (h : host.toSystem.Keeps read) :
    host.traced.toSystem.Keeps fun t => read t.world where
  openStreams t := h.openStreams t.world
  openPipe onExec t := h.openPipe onExec t.world
  close handle t := h.close handle t.world
  start request t := h.start request t.world
  wait process t := h.wait process t.world

/-- The shell's directory, as `directory` reads it from a state, changes only when the host is told
to change it and does so. -/
structure KeepsDirectory (host : Host σ) (directory : σ → δ) : Prop extends
    host.toSystem.Keeps directory where
  refused {path : String} {w : σ} {fault : Fault} :
    (host.changeDirectory path w).1 = .error fault →
      directory (host.changeDirectory path w).2 = directory w
  write (channel : Channel) (bytes : ByteArray) (w : σ) :
    directory (host.write channel bytes w).2 = directory w
  flush (channel : Channel) (w : σ) : directory (host.flush channel w).2 = directory w

theorem keepsNothing (host : Host σ) : host.KeepsDirectory fun _ => () where
  openStreams _ := rfl
  openPipe _ _ := rfl
  close _ _ := rfl
  start _ _ := rfl
  wait _ _ := rfl
  refused _ := rfl
  write _ _ _ := rfl
  flush _ _ := rfl

end Host

end PipeShell
