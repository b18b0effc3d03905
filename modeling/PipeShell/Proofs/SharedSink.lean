import PipeShell.Proofs.ProcessReaping

/-!
# One sink for a shell and its processes

The output of the shell and that of its pipelines go to one sink. The shell's text passes through a
buffer, which may hold back any part of its end until it is flushed; a process writes to the sink
while it lives. `Timing` decides when which of this happens, between any two steps of the shell.
While no process lives, the sink and the buffer hold the shell's text in order; while the buffer is
empty, the sink grows by what the processes write.
-/
namespace PipeShell

variable {σ α : Type}

/-- What happens at the sink without the shell: its buffer gives up its first bytes, or a process
writes. -/
inductive Moment where
  | released (count : Nat)
  | wrote (process : ProcessId) (bytes : List UInt8)

structure Shared (σ : Type) where
  world : σ
  /-- The processes that were started and not yet waited for. -/
  live : List ProcessId := []
  /-- The text of the shell that the buffer holds back. -/
  held : List UInt8 := []
  sink : List UInt8 := []
  /-- What processes have written to the sink. -/
  chatter : List UInt8 := []
  /-- How often something could happen without the shell. -/
  time : Nat := 0

namespace Shared

def text (s : Shared σ) : List UInt8 := s.sink ++ s.held

/-- The sink after a moment: a process writes only while it lives. -/
def after (s : Shared σ) : Moment → Shared σ
  | .released count =>
    { s with held := s.held.drop count, sink := s.sink ++ s.held.take count }
  | .wrote process bytes =>
    if process ∈ s.live then { s with sink := s.sink ++ bytes, chatter := s.chatter ++ bytes }
    else s

def ask (request : σ → α × σ) (s : Shared σ) : α × Shared σ :=
  let answer := request s.world
  (answer.1, { s with world := answer.2 })

def start (system : System σ) (request : StartRequest) (s : Shared σ) :
    Except Fault ProcessId × Shared σ :=
  match system.start request s.world with
  | (.ok process, world) => (.ok process, { s with world, live := s.live ++ [process] })
  | (.error cause, world) => (.error cause, { s with world })

def wait (system : System σ) (process : ProcessId) (s : Shared σ) :
    Except Fault Int32 × Shared σ :=
  let answer := system.wait process s.world
  (answer.1, { s with world := answer.2, live := s.live.erase process })

def write (channel : Channel) (bytes : ByteArray) (s : Shared σ) : Except Fault Unit × Shared σ :=
  match channel with
  | .out => (.ok (), { s with held := s.held ++ bytes.data.toList })
  | .err => (.ok (), s)

def flush (channel : Channel) (s : Shared σ) : Except Fault Unit × Shared σ :=
  match channel with
  | .out => (.ok (), { s with held := [], sink := s.sink ++ s.held })
  | .err => (.ok (), s)

end Shared

/-- What happens without the shell, for every state in which something can. -/
abbrev Timing (σ : Type) := Shared σ → List Moment

namespace Timing

def pass (timing : Timing σ) (s : Shared σ) : Shared σ :=
  { (timing s).foldl Shared.after s with time := s.time + 1 }

/-- A step of the shell, between what happens before and after it. -/
def during (timing : Timing σ) (step : Shared σ → α × Shared σ) (s : Shared σ) : α × Shared σ :=
  let stepped := step (timing.pass s)
  (stepped.1, timing.pass stepped.2)

end Timing

/-- A system whose pipelines write to the sink of the shell, whose streams never fail. -/
def Host.sharing (system : System σ) (timing : Timing σ) : Host (Shared σ) where
  searchPath s := system.searchPath s.world
  fileInfo s := system.fileInfo s.world
  currentDirectory s := system.currentDirectory s.world
  changeDirectory path := timing.during (Shared.ask (system.changeDirectory path))
  openStreams := timing.during (Shared.ask system.openStreams)
  openPipe onExec := timing.during (Shared.ask (system.openPipe onExec))
  close handle s :=
    (timing.during (Shared.ask fun world => ((), system.close handle world)) s).2
  start request := timing.during (Shared.start system request)
  wait process := timing.during (Shared.wait system process)
  write channel bytes := timing.during (Shared.write channel bytes)
  flush channel := timing.during (Shared.flush channel)

/-! ### What happens without the shell -/

variable {s t u : Shared σ}

theorem Shared.after_live (s : Shared σ) (moment : Moment) : (s.after moment).live = s.live := by
  cases moment with
  | released count => rfl
  | wrote process bytes =>
    simp only [after]
    split_ifs <;> rfl

theorem Timing.pass_live (timing : Timing σ) (s : Shared σ) : (timing.pass s).live = s.live := by
  change ((timing s).foldl Shared.after s).live = s.live
  induction timing s generalizing s with
  | nil => rfl
  | cons moment moments ih => exact (ih _).trans (s.after_live moment)

/-- Text of the shell and of processes came after all that was written before, and no process is
left. -/
structure Shared.Gave (s : Shared σ) (chatter text : List UInt8) (t : Shared σ) : Prop where
  live : t.live = []
  text : t.text = s.text ++ text
  chatter : t.chatter = s.chatter ++ chatter

theorem Shared.Gave.refl (hs : s.live = []) : s.Gave [] [] s :=
  ⟨hs, (List.append_nil _).symm, (List.append_nil _).symm⟩

theorem Shared.Gave.trans {chatter text chatter' text' : List UInt8} (h : s.Gave chatter text t)
    (h' : t.Gave chatter' text' u) : s.Gave (chatter ++ chatter') (text ++ text') u where
  live := h'.live
  text := by rw [h'.text, h.text, List.append_assoc]
  chatter := by rw [h'.chatter, h.chatter, List.append_assoc]

theorem Shared.Gave.ask (hs : s.live = []) (request : σ → α × σ) :
    s.Gave [] [] (Shared.ask request s).2 :=
  ⟨hs, (List.append_nil _).symm, (List.append_nil _).symm⟩

theorem Shared.gave_after (hs : s.live = []) (moment : Moment) : s.Gave [] [] (s.after moment) := by
  refine ⟨(s.after_live moment).trans hs, ?_, ?_⟩
  · cases moment with
    | released count => simp [after, Shared.text]
    | wrote process bytes => simp [after, hs]
  · cases moment with
    | released count => simp [after]
    | wrote process bytes => simp [after, hs]

theorem Timing.gave_pass (timing : Timing σ) (hs : s.live = []) : s.Gave [] [] (timing.pass s) := by
  have hmoments (moments : List Moment) {t : Shared σ} (ht : t.live = []) :
      t.Gave [] [] (moments.foldl Shared.after t) := by
    induction moments generalizing t with
    | nil => exact .refl ht
    | cons moment moments ih =>
      have hfirst := Shared.gave_after ht moment
      exact hfirst.trans (ih hfirst.live)
  obtain ⟨hlive, htext, hchatter⟩ := hmoments (timing s) hs
  exact ⟨hlive, htext, hchatter⟩

theorem Timing.gave_during (timing : Timing σ) {step : Shared σ → α × Shared σ}
    {chatter text : List UInt8} (hs : s.live = [])
    (h : ∀ {t : Shared σ}, t.live = [] → t.Gave chatter text (step t).2) :
    s.Gave chatter text (timing.during step s).2 := by
  have hbefore := timing.gave_pass hs
  have hstep := h hbefore.live
  have hafter := timing.gave_pass hstep.live
  have hall := (hbefore.trans hstep).trans hafter
  rw [List.nil_append, List.nil_append, List.append_nil, List.append_nil] at hall
  exact hall

/-- The buffer is empty, and the sink has grown by what processes wrote. -/
def Shared.Grown (s t : Shared σ) : Prop :=
  t.held = [] ∧ ∃ bytes, t.sink = s.sink ++ bytes ∧ t.chatter = s.chatter ++ bytes

theorem Shared.Grown.after (h : s.Grown t) (moment : Moment) : s.Grown (t.after moment) := by
  obtain ⟨hheld, bytes, hsink, hchatter⟩ := h
  cases moment with
  | released count =>
    refine ⟨?_, bytes, ?_, hchatter⟩
    · simp [Shared.after, hheld]
    · simp [Shared.after, hheld, hsink]
  | wrote process more =>
    simp only [Shared.after]
    split_ifs
    · exact ⟨hheld, bytes ++ more, by simp [hsink], by simp [hchatter]⟩
    · exact ⟨hheld, bytes, hsink, hchatter⟩

theorem Shared.Grown.pass (h : s.Grown t) (timing : Timing σ) : s.Grown (timing.pass t) := by
  have hmoments (moments : List Moment) {t : Shared σ} (h : s.Grown t) :
      s.Grown (moments.foldl Shared.after t) := by
    induction moments generalizing t with
    | nil => exact h
    | cons moment moments ih => exact ih (h.after moment)
  exact hmoments (timing t) h

theorem Shared.Grown.during (h : s.Grown t) (timing : Timing σ) {step : Shared σ → α × Shared σ}
    (hstep : ∀ {t : Shared σ}, s.Grown t → s.Grown (step t).2) :
    s.Grown (timing.during step t).2 :=
  (hstep (h.pass timing)).pass timing

/-! ### The system under the sink -/

namespace Host

variable (system : System σ) (timing : Timing σ)

theorem sharing_tracks : (sharing system timing).toSystem.Tracks Shared.live := by
  have hask {α : Type} (request : σ → α × σ) (s : Shared σ) :
      (timing.during (Shared.ask request) s).2.live = s.live :=
    (timing.pass_live _).trans (timing.pass_live s)
  have hstart (request : StartRequest) (s : Shared σ) :
      (timing.during (Shared.start system request) s).2.live =
        s.live ++ (timing.during (Shared.start system request) s).1.toOption.toList := by
    rw [Timing.during, timing.pass_live, ← timing.pass_live s, Shared.start]
    split
    · rfl
    · exact (List.append_nil _).symm
  refine { openStreams := hask _, openPipe := fun _ => hask _, close := fun _ => hask _, started := ?_,
           refused := ?_, wait := ?_ }
  · intro request process s s' h
    have hlive := hstart request s
    rw [show timing.during (Shared.start system request) s = (.ok process, s') from h] at hlive
    exact hlive
  · intro request cause s s' h
    have hlive := hstart request s
    rw [show timing.during (Shared.start system request) s = (.error cause, s') from h] at hlive
    exact hlive.trans (List.append_nil _)
  · intro process s
    exact (timing.pass_live _).trans (congrArg (List.erase · process) (timing.pass_live s))

theorem sharing_preserves (s : Shared σ) : (sharing system timing).toSystem.Preserves s.Grown := by
  have hask {α : Type} {request : σ → α × σ} {t : Shared σ} (h : s.Grown t) :
      s.Grown (timing.during (Shared.ask request) t).2 := h.during timing id
  have hstart {request : StartRequest} {t : Shared σ} (h : s.Grown t) :
      s.Grown (Shared.start system request t).2 := by
    unfold Shared.start
    split <;> exact h
  exact { openStreams := hask, openPipe := fun _ {_} => hask, close := fun _ {_} => hask,
          start := fun _ {_} h => h.during timing hstart,
          wait := fun _ {_} h => h.during timing id }

/-- A run that finds the buffer empty leaves it so, and the sink has grown by what its processes
wrote. -/
theorem sharing_runStages (stages : List Stage) {s : Shared σ} (hlive : s.live = [])
    (hheld : s.held = []) :
    ∃ chatter, s.Gave chatter chatter
      (Shell.runStages (sharing system timing).toSystem stages s).2 := by
  obtain ⟨hheld', bytes, hsink, hchatter⟩ :=
    (sharing_preserves system timing s).runStages stages ⟨hheld, [], by simp, by simp⟩
  refine ⟨bytes, (sharing_tracks system timing).runStages stages hlive, ?_, hchatter⟩
  simp [Shared.text, hheld, hheld', hsink]

end Host

end PipeShell
