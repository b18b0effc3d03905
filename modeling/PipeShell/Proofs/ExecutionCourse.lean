import PipeShell.Proofs.ExecutionLaunch

/-!
# Whole runs and their logs

A run opens its pipes, starts stages, closes what is left and waits. Whatever path it takes, its
log falls into an early part, at whose end everything is closed, and the waits: `Course` says what
can be read off each of them. Every run has a course, and the kind of the run fixes its result.
-/
namespace PipeShell.Execution.Scenario

variable (scenario : Scenario)

def child? (last i : Nat) (stage : Stage) : Option (ProcessId × StartRequest) :=
  (scenario.request? last i stage).bind fun request =>
    Event.child? (.started request (scenario.startAnswer i))

theorem child?_map_fst (last i : Nat) (stage : Stage) :
    (scenario.child? last i stage).map Prod.fst = scenario.process? i stage := by
  unfold child? request? process? startAnswer
  cases stage.path? <;> cases scenario.spawn i <;> rfl

/-- At the end of this log some stages of a run with so many pipes were attempted, and everything
that the run owned is closed. -/
structure Settled (last pipes : Nat) (attempted : List Stage) (log : List Event) : Prop where
  requests : requests log = scenario.startRequests last 0 attempted
  children : children log =
    attempted.zipIdx.filterMap fun (stage, i) => scenario.child? last i stage
  waits : waits log = []
  acquired : log.flatMap Event.acquired = scenario.pipeHandles pipes
  closes : (closes log).Perm (scenario.handles pipes)
  starts : StartsOwned scenario.outer log
  /-- No end of a pipe goes along into a program. -/
  unkept : ∀ ends, Event.opened .keep (.ok ends) ∉ log

/-- The log of a run: once everything is closed, every process is waited for. -/
def Course (last pipes : Nat) (attempted : List Stage) (log : List Event) : Prop :=
  ∃ early, scenario.Settled last pipes attempted early ∧
    log = early ++ (scenario.processes 0 attempted).map .waited

theorem closes_openEvents (first count : Nat) : closes (scenario.openEvents first count) = [] := by
  simp [closes, openEvents, List.filterMap_map, Function.comp_def, Event.closed?]

theorem closes_closed (handles : List Handle) : closes (handles.map Event.closed) = handles := by
  simp [closes, List.filterMap_map, Function.comp_def, Event.closed?]

theorem filterMap_launch {β : Type} (read : Event → Option β)
    (ho : ∀ onExec answer, read (.opened onExec answer) = none)
    (hc : ∀ handle, read (.closed handle) = none)
    (last pipes : Nat) (stages : List Stage) (closing : List Handle) :
    (scenario.openEvents 0 pipes ++ scenario.launchEvents last 0 stages ++
        closing.map Event.closed).filterMap read =
      stages.zipIdx.filterMap fun (stage, i) => (scenario.request? last i stage).bind
        fun request => read (.started request (scenario.startAnswer i)) := by
  have hopen : (scenario.openEvents 0 pipes).filterMap read = [] := by
    simp [openEvents, List.filterMap_map, ho]
  have hclosing : (closing.map Event.closed).filterMap read = [] := by
    simp [List.filterMap_map, hc]
  rw [List.filterMap_append, List.filterMap_append, hopen, hclosing, List.nil_append,
    List.append_nil, launchEvents, List.filterMap_flatMap, List.filterMap_eq_flatMap_toList]
  congr 1
  funext entry
  obtain ⟨stage, i⟩ := entry
  cases h : scenario.request? last i stage with
  | none => simp [stageEvents, h, hc]
  | some request =>
    cases hr : read (.started request (scenario.startAnswer i)) <;>
      simp [stageEvents, h, hc, hr]

theorem filterMap_refused {β : Type} (read : Event → Option β)
    (ho : ∀ onExec answer, read (.opened onExec answer) = none)
    (hc : ∀ handle, read (.closed handle) = none)
    (pipes : Nat) (cause : OsError) (closing : List Handle) :
    (scenario.openEvents 0 pipes ++ .opened .close (.error cause) ::
        closing.map Event.closed).filterMap read = [] := by
  simp [openEvents, List.filterMap_map, ho, hc]

theorem filterMap_waited {β : Type} (read : Event → Option β)
    (hw : ∀ process, read (.waited process) = none) (log : List Event)
    (processes : List ProcessId) :
    (log ++ processes.map Event.waited).filterMap read = log.filterMap read := by
  simp [List.filterMap_map, hw]

theorem unkept_openEvents (count : Nat) (ends : NewPipe) :
    Event.opened .keep (.ok ends) ∉ scenario.openEvents 0 count := by
  simp [openEvents]

theorem unkept_launchEvents (last index : Nat) (stages : List Stage) (ends : NewPipe) :
    Event.opened .keep (.ok ends) ∉ scenario.launchEvents last index stages := by
  intro h
  obtain ⟨⟨stage, i⟩, -, h⟩ := List.mem_flatMap.mp h
  simp [stageEvents] at h

theorem startsOwned_openEvents (count : Nat) :
    StartsOwned scenario.outer (scenario.openEvents 0 count) :=
  (StartsOwned.nil _).append (by simp [Event.request?])

theorem conduits_getElem? {last pipe : Nat} (h : pipe < last) :
    (scenario.conduits 0 last)[pipe]? = some (.ofEnds (scenario.ends pipe)) := by
  simp [conduits, h]

theorem conduits_held (last : Nat) :
    Conduits.held ⟨scenario.conduits 0 last⟩ = (List.range last).flatMap fun pipe =>
      [scenario.handle (.reading pipe), scenario.handle (.writing pipe)] := by
  rw [Conduits.held, conduits, List.range_eq_range', List.flatMap_map]
  rfl

theorem progress_nil {last : Nat} {stages : List Stage} (record : Record)
    (hp : record.pending = Stage.programs 0 stages) (hl : record.log = scenario.openEvents 0 last) :
    scenario.Progress last [] stages
      ⟨some (scenario.handle .input), some (scenario.handle .output),
        ⟨scenario.conduits 0 last⟩⟩ record where
  inputs j _ hj := by
    cases j with
    | zero => rfl
    | succ pipe =>
      simp [Plumbing.takeInput, Conduits.takeReading, scenario.conduits_getElem? (show pipe < last
        by omega), Conduit.ofEnds, ends, inputEnd]
  outputs j _ hj := by
    by_cases he : j = last
    · simp [Plumbing.takeOutput, outputEnd, he]
    · simp [Plumbing.takeOutput, Conduits.takeWriting, outputEnd, he,
        scenario.conduits_getElem? (show j < last by omega), Conduit.ofEnds, ends]
  pending := hp
  log := by simp [hl, launchEvents]
  held := by
    rw [hl, closes_openEvents, Plumbing.held, conduits_held, List.nil_append, handles]
    simp only [Option.toList_some, List.append_assoc, List.singleton_append]
    exact List.perm_append_comm
  starts := by
    rw [hl]
    exact scenario.startsOwned_openEvents last

theorem settled_of_launch {last : Nat} {attempted : List Stage} (closing : List Handle)
    (h : (closes (scenario.launchEvents last 0 attempted) ++ closing).Perm
      (scenario.handles last))
    (hs : StartsOwned scenario.outer
      (scenario.openEvents 0 last ++ scenario.launchEvents last 0 attempted)) :
    scenario.Settled last last attempted (scenario.openEvents 0 last ++
      scenario.launchEvents last 0 attempted ++ closing.map .closed) where
  requests := by
    refine (scenario.filterMap_launch Event.request? (fun _ _ => rfl) (fun _ => rfl)
      last last attempted closing).trans ?_
    simp [startRequests, Event.request?]
  children := scenario.filterMap_launch Event.child? (fun _ _ => rfl) (fun _ => rfl)
    last last attempted closing
  waits := by
    refine (scenario.filterMap_launch Event.waited? (fun _ _ => rfl) (fun _ => rfl)
      last last attempted closing).trans ?_
    simp [Event.waited?]
  acquired := by
    rw [List.flatMap_append, List.flatMap_append, openEvents_acquired, launchEvents_acquired]
    simp [List.flatMap_map, Event.acquired]
  closes := by
    rwa [closes_append, closes_append, closes_openEvents, closes_closed, List.nil_append]
  starts := hs.append (by simp [Event.request?])
  unkept ends := by
    simp [unkept_openEvents, unkept_launchEvents]

/-- A run whose pipes are refused is settled when it has closed all that it got so far. -/
theorem settled_of_refused (last pipes : Nat) (cause : OsError) :
    scenario.Settled last pipes [] (scenario.openEvents 0 pipes ++ .opened .close (.error cause) ::
      (Conduits.held ⟨scenario.conduits 0 pipes⟩ ++
        [scenario.handle .input, scenario.handle .output]).map .closed) where
  requests := scenario.filterMap_refused Event.request? (fun _ _ => rfl) (fun _ => rfl) _ _ _
  children := scenario.filterMap_refused Event.child? (fun _ _ => rfl) (fun _ => rfl) _ _ _
  waits := scenario.filterMap_refused Event.waited? (fun _ _ => rfl) (fun _ => rfl) _ _ _
  acquired := by
    rw [List.flatMap_append, openEvents_acquired]
    simp [List.flatMap_map, Event.acquired]
  closes := by
    change (closes (_ ++ ([Event.opened .close (.error cause)] ++ _))).Perm _
    rw [closes_append, closes_append, closes_openEvents, closes_closed, conduits_held]
    have hn : closes [Event.opened .close (.error cause)] = [] := rfl
    rw [hn, List.nil_append, List.nil_append]
    exact List.perm_append_comm
  starts := by
    refine (scenario.startsOwned_openEvents pipes).append fun event he => ?_
    rcases List.mem_cons.mp he with rfl | he
    · rfl
    · obtain ⟨handle, -, rfl⟩ := List.mem_map.mp he
      rfl
  unkept ends := by
    simp [unkept_openEvents]

/-- What follows the launch: everything is closed, then every process is waited for. -/
theorem Progress.course {last : Nat} {attempted rest stages : List Stage} {plumbing : Plumbing}
    {record : Record} (h : scenario.Progress last attempted rest plumbing record)
    (hp : scenario.processes 0 stages = scenario.processes 0 attempted) :
    let waited := waitFrom scenario.system 1
      (Conduits.closeAll scenario.system plumbing.held record) (scenario.launches 0 stages)
    waited.failure = scenario.firstLoss 0 stages ∧
      (scenario.firstLoss 0 stages = none → waited.ended = scenario.stageEnds 0 stages) ∧
      scenario.Course last last attempted waited.world.log := by
  obtain ⟨hf, he, hw⟩ := scenario.waitFrom_launches 0 stages
    (Conduits.closeAll scenario.system plumbing.held record)
  rw [Nat.zero_add] at hf he hw
  refine ⟨hf, he, _, scenario.settled_of_launch plumbing.held ?_ ?_, ?_⟩
  · have hh := h.held
    rwa [h.log, closes_append, closes_openEvents, List.nil_append] at hh
  · rw [← h.log]
    exact h.starts
  · rw [hw, closeAll_system, h.log, hp]

theorem run_of_open {stages : List Stage}
    (ho : ∀ pipe < stages.length - 1, scenario.refusal pipe = none) :
    ∃ plumbing record, scenario.Progress (stages.length - 1) [] stages plumbing record ∧
      run scenario.system stages scenario.outer (ready stages) =
        let started := startFrom scenario.system (stages.length - 1) 0 plumbing record stages
        let closed := Conduits.closeAll scenario.system started.plumbing.held started.world
        let finished := waitFrom scenario.system 1 closed started.launched
        match started.failure.or finished.failure with
        | some failure => (.error failure, finished.world)
        | none => (.ok ⟨finished.ended⟩, finished.world) := by
  have he := scenario.openFrom_system (stages.length - 1) (ready stages) []
    fun pipe _ hp => ho pipe (by simpa [ready] using hp)
  refine ⟨_, _, scenario.progress_nil { ready stages with
    pipes := 0 + (stages.length - 1)
    log := [] ++ scenario.openEvents 0 (stages.length - 1) } rfl rfl, ?_⟩
  rw [run, Conduits.openFor, he]
  rfl

theorem run_of_harmless {stages : List Stage}
    (ho : ∀ pipe < stages.length - 1, scenario.refusal pipe = none)
    (hs : scenario.Harmless 0 stages) :
    ∃ record, run scenario.system stages scenario.outer (ready stages) =
        (match scenario.firstLoss 0 stages with
          | some failure => .error failure
          | none => .ok ⟨scenario.stageEnds 0 stages⟩, record) ∧
      scenario.Course (stages.length - 1) (stages.length - 1) stages record.log := by
  obtain ⟨plumbing, record, hp, he⟩ := scenario.run_of_open ho
  obtain ⟨plumbing', record', hp', hstart⟩ := startFrom_all hp (by omega) hs
  obtain ⟨hf, hw, hc⟩ := hp'.course scenario rfl
  refine ⟨_, ?_, hc⟩
  rw [he, hstart]
  simp only [Option.none_or, hf]
  cases hl : scenario.firstLoss 0 stages with
  | none => simp only [hw hl]
  | some failure => rfl

theorem process?_of_fatal {i : Nat} {stage : Stage} {cause : Fault}
    (h : scenario.Fatal i stage cause) : scenario.process? i stage = none := by
  obtain ⟨_, hs, _⟩ := h
  unfold process?
  split
  · next h => simp [hs] at h
  · rfl

theorem processes_append_fatal {stages : List Stage} {stage : Stage} {cause : Fault}
    (h : scenario.Fatal stages.length stage cause) :
    scenario.processes 0 (stages ++ [stage]) = scenario.processes 0 stages := by
  simp [processes, List.zipIdx_append, scenario.process?_of_fatal h]

/-- A run is given up at its first fatal stage. -/
theorem run_of_fatal {stages rest : List Stage} {stage : Stage} {cause : Fault}
    (ho : ∀ pipe < (stages ++ stage :: rest).length - 1, scenario.refusal pipe = none)
    (hs : scenario.Harmless 0 stages) (hf : scenario.Fatal stages.length stage cause) :
    ∃ record, run scenario.system (stages ++ stage :: rest) scenario.outer
          (ready (stages ++ stage :: rest)) =
        (.error (.start stage.command.name (stages.length + 1) cause), record) ∧
      scenario.Course ((stages ++ stage :: rest).length - 1)
        ((stages ++ stage :: rest).length - 1) (stages ++ [stage]) record.log := by
  obtain ⟨plumbing, record, hp, he⟩ := scenario.run_of_open ho
  obtain ⟨plumbing', record', hp', hstart⟩ := startFrom_fatal hp (by simp) hs hf
  obtain ⟨-, -, hc⟩ := hp'.course scenario (scenario.processes_append_fatal hf).symm
  refine ⟨_, ?_, hc⟩
  rw [he, hstart]
  simp only [Option.some_or]

theorem run_of_refused {stages : List Stage} {pipe : Nat} {cause : OsError}
    (hp : pipe < stages.length - 1) (ho : ∀ earlier < pipe, scenario.refusal earlier = none)
    (hc : scenario.refusal pipe = some cause) :
    ∃ record, run scenario.system stages scenario.outer (ready stages) =
        (.error (.pipe cause), record) ∧
      scenario.Course (stages.length - 1) pipe [] record.log := by
  have he := scenario.openFrom_system_refused (ready stages) [] hp
    (fun earlier _ hl => ho earlier (by simpa [ready] using hl)) (by simpa [ready] using hc)
  refine ⟨_, by rw [run, Conduits.openFor, he], _,
    scenario.settled_of_refused _ pipe cause, ?_⟩
  simp [closeAll_system, ready, outer, processes]

theorem open_or_refused (count : Nat) :
    (∀ pipe < count, scenario.refusal pipe = none) ∨
      ∃ pipe cause, pipe < count ∧ (∀ earlier < pipe, scenario.refusal earlier = none) ∧
        scenario.refusal pipe = some cause := by
  induction count with
  | zero => exact .inl fun pipe h => absurd h (Nat.not_lt_zero pipe)
  | succ count ih =>
    rcases ih with hopen | ⟨pipe, cause, hl, hopen, hc⟩
    · cases hr : scenario.refusal count with
      | some cause => exact .inr ⟨count, cause, by omega, hopen, hr⟩
      | none =>
        refine .inl fun pipe hp => ?_
        rcases Nat.lt_succ_iff_lt_or_eq.mp hp with hlt | rfl
        · exact hopen pipe hlt
        · exact hr
    · exact .inr ⟨pipe, cause, by omega, hopen, hc⟩

theorem harmless_or_fatal (index : Nat) (stages : List Stage) :
    scenario.Harmless index stages ∨
      ∃ before stage rest cause, stages = before ++ stage :: rest ∧
        scenario.Harmless index before ∧ scenario.Fatal (index + before.length) stage cause := by
  induction stages generalizing index with
  | nil => exact .inl fun j stage hj => by simp at hj
  | cons stage stages ih =>
    by_cases hf : ∃ cause, scenario.Fatal index stage cause
    · obtain ⟨cause, hf⟩ := hf
      exact .inr ⟨[], stage, stages, cause, rfl, fun j _ hj => by simp at hj, hf⟩
    · have hn : ∀ cause, ¬ scenario.Fatal index stage cause := fun cause h => hf ⟨cause, h⟩
      rcases ih (index + 1) with hs | ⟨before, later, rest, cause, rfl, hs, hl⟩
      · exact .inl (.cons _ hn hs)
      · refine .inr ⟨stage :: before, later, rest, cause, rfl, .cons _ hn hs, ?_⟩
        rw [List.length_cons]
        rwa [Nat.add_assoc, Nat.add_comm 1] at hl

/-- Every run has a course: it attempts the first of its stages and settles all that it owned. -/
theorem course_of_run (stages : List Stage) :
    ∃ pipes attempted, attempted <+: stages ∧ scenario.Course (stages.length - 1) pipes attempted
      (run scenario.system stages scenario.outer (ready stages)).2.log := by
  rcases scenario.open_or_refused (stages.length - 1) with ho | ⟨pipe, cause, hp, ho, hc⟩
  · rcases scenario.harmless_or_fatal 0 stages with hs | ⟨before, stage, rest, cause, rfl, hs, hf⟩
    · obtain ⟨record, he, hcourse⟩ := scenario.run_of_harmless ho hs
      exact ⟨_, stages, List.prefix_rfl, by rwa [he]⟩
    · rw [Nat.zero_add] at hf
      obtain ⟨record, he, hcourse⟩ := scenario.run_of_fatal ho hs hf
      exact ⟨_, before ++ [stage], ⟨rest, by simp⟩, by rwa [he]⟩
  · obtain ⟨record, he, hcourse⟩ := scenario.run_of_refused hp ho hc
    exact ⟨pipe, [], List.nil_prefix, by rwa [he]⟩

variable {scenario} {last pipes : Nat} {attempted : List Stage} {log : List Event}

theorem Course.requests (h : scenario.Course last pipes attempted log) :
    requests log = scenario.startRequests last 0 attempted := by
  obtain ⟨early, hs, rfl⟩ := h
  exact (filterMap_waited Event.request? (fun _ => rfl) early _).trans hs.requests

theorem Course.children (h : scenario.Course last pipes attempted log) :
    children log = attempted.zipIdx.filterMap fun (stage, i) => scenario.child? last i stage := by
  obtain ⟨early, hs, rfl⟩ := h
  exact (filterMap_waited Event.child? (fun _ => rfl) early _).trans hs.children

theorem Course.started (h : scenario.Course last pipes attempted log) :
    (Execution.children log).map Prod.fst = scenario.processes 0 attempted := by
  simp [h.children, processes, List.map_filterMap, child?_map_fst]

theorem Course.waits (h : scenario.Course last pipes attempted log) :
    waits log = scenario.processes 0 attempted := by
  obtain ⟨early, hs, rfl⟩ := h
  have hearly : early.filterMap Event.waited? = [] := hs.waits
  simp [Execution.waits, hearly, List.filterMap_map, Event.waited?, Function.comp_def]

variable (scenario)

theorem processes_sublist (index : Nat) (stages : List Stage) :
    (scenario.processes index stages).Sublist (List.range' index stages.length) := by
  induction stages generalizing index with
  | nil => exact List.Sublist.refl _
  | cons stage stages ih =>
    have hp : ((scenario.process? index stage).toList).Sublist [index] := by
      unfold process?
      split <;> simp
    rw [processes_cons, List.length_cons, List.range'_succ]
    exact hp.append (ih (index + 1))

theorem processes_nodup (index : Nat) (stages : List Stage) :
    (scenario.processes index stages).Nodup :=
  (List.nodup_range' _).sublist (scenario.processes_sublist index stages)

end PipeShell.Execution.Scenario
