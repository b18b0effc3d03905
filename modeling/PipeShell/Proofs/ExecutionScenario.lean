import Mathlib
import PipeShell.Execution

/-!
# Scenarios of a run

A scenario fixes every answer that a run can get from its system: for each pipe whether it can be
opened, and for each stage what becomes of its program and of the wait for it. Its system gives these
answers and keeps a log of what it is asked for, so that the course of a run can be read from the
log: what was started, and which ends the shell owned at any time.
-/
namespace PipeShell

def StartRequest.handles (request : StartRequest) : List Handle :=
  request.input.toList ++ request.output.toList

namespace Stage

def path? (stage : Stage) : Option String :=
  match stage.target with
  | .external path => some path
  | .builtin _ | .unknown => none

def programs (index : Nat) (stages : List Stage) : List Nat :=
  (stages.zipIdx index).filterMap fun (stage, i) => stage.path?.map fun _ => i

end Stage

namespace Execution

theorem endingOfFault_eq_some {cause : Fault} {ending : Ending}
    (h : endingOfFault cause = some ending) :
    ending = .notFound ∨ ending = .notExecutable := by
  unfold endingOfFault at h
  split at h <;> simp_all

/-- An end of a stream that a run owns: an outer stream, or a side of a pipe. -/
inductive End where
  | input
  | output
  | reading (pipe : Nat)
  | writing (pipe : Nat)
  deriving DecidableEq, Repr

def inputEnd : Nat → End
  | 0 => .input
  | before + 1 => .reading before

def outputEnd (last stage : Nat) : End := if stage = last then .output else .writing stage

/-- The answers of a system in one run. Handles of different ends differ. -/
structure Scenario where
  /-- Why a pipe is not opened, if it is not. -/
  refusal : Nat → Option OsError
  /-- What the start of a stage leads to: the wait word of its process, or a fault. -/
  spawn : Nat → Except Fault Int32
  /-- Why the wait for the process of a stage fails, if it does. -/
  lost : Nat → Option Fault
  handle : End → Handle
  handle_injective : Function.Injective handle

/-- What is asked of the system, with the answer. The process of stage `i` has the number `i`. -/
inductive Event where
  | opened (onExec : OnExec) (answer : Except OsError NewPipe)
  | started (request : StartRequest) (answer : Except Fault ProcessId)
  | closed (handle : Handle)
  | waited (process : ProcessId)

namespace Event

def request? : Event → Option StartRequest
  | started request _ => some request
  | _ => none

def child? : Event → Option (ProcessId × StartRequest)
  | started request (.ok process) => some (process, request)
  | _ => none

def closed? : Event → Option Handle
  | closed handle => some handle
  | _ => none

def waited? : Event → Option ProcessId
  | waited process => some process
  | _ => none

def acquired : Event → List Handle
  | opened _ (.ok ends) => [ends.reading, ends.writing]
  | _ => []

/-- What goes along into every program that is started while it is open. -/
def kept : Event → List Handle
  | opened .keep (.ok ends) => [ends.reading, ends.writing]
  | _ => []

end Event

def requests (log : List Event) : List StartRequest := log.filterMap Event.request?

def children (log : List Event) : List (ProcessId × StartRequest) := log.filterMap Event.child?

def closes (log : List Event) : List Handle := log.filterMap Event.closed?

def waits (log : List Event) : List ProcessId := log.filterMap Event.waited?

/-- All that the shell got: the outer streams and what it opened. -/
def acquired (outer : OuterStreams) (log : List Event) : List Handle :=
  outer.input :: outer.output :: log.flatMap Event.acquired

/-- What the shell owns: all that it got and did not close. -/
def owned (outer : OuterStreams) (log : List Event) : Multiset Handle :=
  ↑(acquired outer log) - ↑(closes log)

/-- What goes along into programs. The run did not open the outer streams, so for all it knows they
do. -/
def kept (outer : OuterStreams) (log : List Event) : List Handle :=
  outer.input :: outer.output :: log.flatMap Event.kept

/-- When a program is started, the shell owns what the program gets as its streams. -/
def StartsOwned (outer : OuterStreams) (log : List Event) : Prop :=
  ∀ before request answer, before ++ [Event.started request answer] <+: log →
    (request.handles : Multiset Handle) ≤ owned outer before

theorem StartsOwned.nil (outer : OuterStreams) : StartsOwned outer [] := by
  intro before request answer h
  simp at h

theorem StartsOwned.append_event {outer : OuterStreams} {log : List Event} {event : Event}
    (h : StartsOwned outer log)
    (he : ∀ request answer, event = .started request answer →
      (request.handles : Multiset Handle) ≤ owned outer log) :
    StartsOwned outer (log ++ [event]) := by
  intro before request answer hp
  rcases List.prefix_concat_iff.mp hp with heq | hearly
  · obtain ⟨rfl, hevent⟩ := List.append_inj' heq rfl
    exact he request answer (List.singleton_inj.mp hevent).symm
  · exact h before request answer hearly

theorem StartsOwned.append {outer : OuterStreams} {log more : List Event}
    (h : StartsOwned outer log) (hm : ∀ event ∈ more, event.request? = none) :
    StartsOwned outer (log ++ more) := by
  induction more generalizing log with
  | nil => rwa [List.append_nil]
  | cons event more ih =>
    rw [← List.singleton_append, ← List.append_assoc]
    refine ih (h.append_event ?_) fun later hl => hm later (List.mem_cons_of_mem _ hl)
    rintro request answer rfl
    cases hm _ List.mem_cons_self

structure Record where
  /-- How many pipes were asked for. -/
  pipes : Nat := 0
  /-- The stages with a program that nobody has tried to start. -/
  pending : List Nat
  log : List Event := []

namespace Scenario

/-- A scenario with these answers, in which no wait fails and handles are numbered from 0 on. -/
def ofAnswers (refusal : Nat → Option OsError) (spawn : Nat → Except Fault Int32) : Scenario where
  refusal := refusal
  spawn := spawn
  lost _ := none
  handle
    | .input => 0
    | .output => 1
    | .reading pipe => 2 * pipe + 2
    | .writing pipe => 2 * pipe + 3
  handle_injective := by
    rintro (_ | _ | _) (_ | _ | _) h <;> simp at h ⊢ <;> omega

variable (scenario : Scenario)

def outer : OuterStreams := ⟨scenario.handle .input, scenario.handle .output⟩

def ends (pipe : Nat) : NewPipe :=
  ⟨scenario.handle (.reading pipe), scenario.handle (.writing pipe)⟩

def pipeAnswer (pipe : Nat) : Except OsError NewPipe :=
  match scenario.refusal pipe with
  | none => .ok (scenario.ends pipe)
  | some cause => .error cause

def startAnswer (stage : Nat) : Except Fault ProcessId := (scenario.spawn stage).map fun _ => stage

def waitWord (process : ProcessId) : Int32 :=
  match scenario.spawn process with
  | .ok word => word
  | .error _ => 0

def waitAnswer (process : ProcessId) : Except Fault Int32 :=
  match scenario.lost process with
  | none => .ok (scenario.waitWord process)
  | some cause => .error cause

/-- The system that gives the answers of the scenario and logs what it is asked for. A run asks it
for nothing but pipes and processes. -/
def system : System Record where
  searchPath _ := none
  fileInfo _ _ := none
  currentDirectory record := .ok (toString record.pipes)
  changeDirectory _ record := (.ok (), record)
  openStreams record := (.ok scenario.outer, record)
  openPipe onExec record :=
    let answer := scenario.pipeAnswer record.pipes
    (answer, { record with pipes := record.pipes + 1, log := record.log ++ [.opened onExec answer] })
  close handle record := { record with log := record.log ++ [.closed handle] }
  start request record :=
    match record.pending with
    | [] => (.error (.os .noMemory), record)
    | stage :: pending =>
      let answer := scenario.startAnswer stage
      (answer, { record with pending, log := record.log ++ [.started request answer] })
  wait process record :=
    (scenario.waitAnswer process, { record with log := record.log ++ [.waited process] })

def ready (stages : List Stage) : Record := { pending := Stage.programs 0 stages }

variable (last i : Nat) (stage : Stage)

def request? : Option StartRequest :=
  stage.path?.map fun path => ⟨path, stage.command.name, stage.command.args,
    some (scenario.handle (inputEnd i)), some (scenario.handle (outputEnd last i))⟩

def stageHandles : List Handle :=
  [scenario.handle (inputEnd i), scenario.handle (outputEnd last i)]

def startRequests (index : Nat) (stages : List Stage) : List StartRequest :=
  (stages.zipIdx index).filterMap fun (stage, i) => scenario.request? last i stage

def stageEvents : List Event :=
  ((scenario.request? last i stage).map fun request =>
    .started request (scenario.startAnswer i)).toList ++
    [.closed (scenario.handle (inputEnd i)), .closed (scenario.handle (outputEnd last i))]

def attempt : Except Fault Attempt :=
  match stage.path?, scenario.spawn i with
  | none, _ => .ok (.ended .notFound)
  | some _, .ok _ => .ok (.running i)
  | some _, .error cause =>
    match endingOfFault cause with
    | some ending => .ok (.ended ending)
    | none => .error cause

variable {last i stage} in
theorem request?_handles {request : StartRequest}
    (h : scenario.request? last i stage = some request) :
    request.handles = scenario.stageHandles last i := by
  obtain ⟨path, -, rfl⟩ := Option.map_eq_some_iff.mp h
  rfl

theorem startRequests_cons (index : Nat) (stage : Stage) (stages : List Stage) :
    scenario.startRequests last index (stage :: stages) =
      (scenario.request? last index stage).toList ++
        scenario.startRequests last (index + 1) stages := by
  cases h : scenario.request? last index stage <;> simp [startRequests, List.zipIdx_cons, h]

theorem system_openPipe (onExec : OnExec) (record : Record) :
    scenario.system.openPipe onExec record = (scenario.pipeAnswer record.pipes,
      { record with
        pipes := record.pipes + 1
        log := record.log ++ [.opened onExec (scenario.pipeAnswer record.pipes)] }) := rfl

theorem system_close (handle : Handle) (record : Record) :
    scenario.system.close handle record =
      { record with log := record.log ++ [.closed handle] } := rfl

theorem system_start (request : StartRequest) {record : Record} {pending : List Nat}
    (h : record.pending = i :: pending) :
    scenario.system.start request record = (scenario.startAnswer i,
      { record with
        pending
        log := record.log ++ [.started request (scenario.startAnswer i)] }) := by
  simp [system, h]

theorem system_wait (process : ProcessId) (record : Record) :
    scenario.system.wait process record = (scenario.waitAnswer process,
      { record with log := record.log ++ [.waited process] }) := rfl

theorem closeAll_system (handles : List Handle) (record : Record) :
    Conduits.closeAll scenario.system handles record =
      { record with log := record.log ++ handles.map .closed } := by
  induction handles generalizing record with
  | nil => simp [Conduits.closeAll]
  | cons handle handles ih =>
    change Conduits.closeAll scenario.system handles (scenario.system.close handle record) = _
    rw [ih, system_close]
    simp

theorem startStage_system {record : Record} {rest : List Stage}
    (h : record.pending = Stage.programs i (stage :: rest)) :
    startStage scenario.system stage (some (scenario.handle (inputEnd i)))
        (some (scenario.handle (outputEnd last i))) record =
      (scenario.attempt i stage,
        { record with
          pending := Stage.programs (i + 1) rest
          log := record.log ++ scenario.stageEvents last i stage }) := by
  unfold startStage attempt stageEvents request?
  cases ht : stage.target with
  | builtin kind =>
    have hp : stage.path? = none := by simp [Stage.path?, ht]
    simp_all [closeAll_system, Stage.programs]
  | unknown =>
    have hp : stage.path? = none := by simp [Stage.path?, ht]
    simp_all [closeAll_system, Stage.programs]
  | external path =>
    have hp : stage.path? = some path := by simp [Stage.path?, ht]
    have hpending : record.pending = i :: Stage.programs (i + 1) rest := by
      simpa [Stage.programs, hp] using h
    simp only [scenario.system_start _ _ hpending, hp]
    cases hs : scenario.spawn i with
    | ok word => simp [closeAll_system, startAnswer, hs, Except.map]
    | error cause =>
      cases he : endingOfFault cause <;> simp [closeAll_system, startAnswer, hs, he, Except.map]

def openEvents (first count : Nat) : List Event :=
  (List.range' first count).map fun pipe => .opened .close (.ok (scenario.ends pipe))

def conduits (first count : Nat) : List Conduit :=
  (List.range' first count).map fun pipe => .ofEnds (scenario.ends pipe)

theorem openFrom_system (count : Nat) (record : Record) (opened : List Conduit)
    (h : ∀ pipe, record.pipes ≤ pipe → pipe < record.pipes + count →
      scenario.refusal pipe = none) :
    Conduits.openFrom scenario.system opened count record =
      (.ok ⟨opened ++ scenario.conduits record.pipes count⟩,
        { record with
          pipes := record.pipes + count
          log := record.log ++ scenario.openEvents record.pipes count }) := by
  induction count generalizing opened record with
  | zero => simp [Conduits.openFrom, conduits, openEvents]
  | succ count ih =>
    have hn : scenario.pipeAnswer record.pipes = .ok (scenario.ends record.pipes) := by
      simp [pipeAnswer, h record.pipes (by omega) (by omega)]
    rw [Conduits.openFrom, system_openPipe, hn]
    simp only
    rw [ih]
    · simp [conduits, openEvents, List.range'_succ, Nat.add_comm, Nat.add_left_comm]
    · intro pipe hl hu
      exact h pipe (by simp at hl; omega) (by simp at hu; omega)

/-- When a pipe is refused, those that were opened before it are closed again. -/
theorem openFrom_system_refused {count before : Nat} (record : Record) {cause : OsError}
    (opened : List Conduit) (hb : before < count)
    (h : ∀ pipe, record.pipes ≤ pipe → pipe < record.pipes + before →
      scenario.refusal pipe = none)
    (hc : scenario.refusal (record.pipes + before) = some cause) :
    Conduits.openFrom scenario.system opened count record =
      (.error cause,
        { record with
          pipes := record.pipes + (before + 1)
          log := record.log ++ scenario.openEvents record.pipes before ++
            .opened .close (.error cause) ::
              (Conduits.held ⟨opened ++ scenario.conduits record.pipes before⟩).map .closed }) := by
  induction before generalizing count opened record with
  | zero =>
    obtain ⟨count, rfl⟩ : ∃ n, count = n + 1 := ⟨count - 1, by omega⟩
    have hn : scenario.pipeAnswer record.pipes = .error cause := by
      rw [Nat.add_zero] at hc
      simp [pipeAnswer, hc]
    rw [Conduits.openFrom, system_openPipe, hn]
    simp [closeAll_system, openEvents, conduits]
  | succ before ih =>
    obtain ⟨count, rfl⟩ : ∃ n, count = n + 1 := ⟨count - 1, by omega⟩
    have hn : scenario.pipeAnswer record.pipes = .ok (scenario.ends record.pipes) := by
      simp [pipeAnswer, h record.pipes (by omega) (by omega)]
    rw [Conduits.openFrom, system_openPipe, hn]
    simp only
    rw [ih _ _ (by omega)]
    · simp [conduits, openEvents, List.range'_succ, Nat.add_comm, Nat.add_left_comm]
    · intro pipe hl hu
      exact h pipe (by simp at hl; omega) (by simp at hu; omega)
    · simpa [Nat.add_assoc, Nat.add_comm 1] using hc

end Scenario

end Execution

end PipeShell
