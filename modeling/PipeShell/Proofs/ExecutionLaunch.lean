import PipeShell.Proofs.ConduitOwnership
import PipeShell.Proofs.ExecutionScenario

/-!
# The course of a run

`Progress` holds between two stages of a run: what is logged, which ends are left for the stages to
come, that every end is either still owned or closed, and that no program was started with an end
that was not owned then. One stage preserves it, so it holds up to the last stage or up to the first
one whose start is fatal, and the whole log of the run follows.
-/
namespace PipeShell.Execution.Scenario

variable (scenario : Scenario)

/-- The faults after which the other stages still run: there is no such file, or it may not or
cannot be executed. -/
def harmless : List Fault :=
  [.os .noSuchEntry, .os .accessDenied, .os .notPermitted, .os .execFormat]

theorem endingOfFault_eq_none_iff {cause : Fault} :
    endingOfFault cause = none ↔ cause ∉ harmless := by
  cases cause with
  | os error => cases error <;> simp [endingOfFault, harmless]
  | streamFull => simp [endingOfFault, harmless]
  | notText => simp [endingOfFault, harmless]
  | nulInPath => simp [endingOfFault, harmless]
  | nulInProgram => simp [endingOfFault, harmless]
  | other text => simp [endingOfFault, harmless]

def Fatal (i : Nat) (stage : Stage) (cause : Fault) : Prop :=
  stage.path?.isSome = true ∧ scenario.spawn i = .error cause ∧ cause ∉ harmless

def Harmless (index : Nat) (stages : List Stage) : Prop :=
  ∀ j stage, stages[j]? = some stage → ∀ cause, ¬ scenario.Fatal (index + j) stage cause

def process? (i : Nat) (stage : Stage) : Option ProcessId :=
  match stage.path?, scenario.spawn i with
  | some _, .ok _ => some i
  | _, _ => none

def ending (i : Nat) (stage : Stage) : Ending :=
  match stage.path?, scenario.spawn i with
  | none, _ => .notFound
  | some _, .ok word => .ofWaitWord word
  | some _, .error (.os .noSuchEntry) => .notFound
  | some _, .error _ => .notExecutable

/-- The wait for stage `i` fails with this fault. -/
def Lost (i : Nat) (stage : Stage) (cause : Fault) : Prop :=
  (scenario.process? i stage).isSome = true ∧ scenario.lost i = some cause

def Reaped (stages : List Stage) : Prop :=
  ∀ i stage, stages[i]? = some stage → ∀ cause, ¬ scenario.Lost i stage cause

def loss? (i : Nat) (stage : Stage) : Option RunError :=
  (scenario.process? i stage).bind fun process =>
    (scenario.lost process).map (.wait stage.command.name (i + 1))

def firstLoss (index : Nat) (stages : List Stage) : Option RunError :=
  (stages.zipIdx index).findSome? fun (stage, i) => scenario.loss? i stage

def launch (i : Nat) (stage : Stage) : Attempt :=
  match scenario.process? i stage with
  | some process => .running process
  | none => .ended (scenario.ending i stage)

theorem launch_of_none {i : Nat} {stage : Stage} (h : scenario.process? i stage = none) :
    scenario.launch i stage = .ended (scenario.ending i stage) := by
  simp [launch, h]

theorem launch_of_some {i : Nat} {stage : Stage} {process : ProcessId}
    (h : scenario.process? i stage = some process) :
    scenario.launch i stage = .running process := by
  simp [launch, h]

theorem ofWaitWord_waitWord {i : Nat} {stage : Stage} {process : ProcessId}
    (h : scenario.process? i stage = some process) :
    Ending.ofWaitWord (scenario.waitWord process) = scenario.ending i stage := by
  unfold process? at h
  unfold ending waitWord
  split at h
  · next path word hpath hspawn =>
    obtain rfl : i = process := by simpa using h
    simp [hpath, hspawn]
  · simp at h

theorem process?_eq {i : Nat} {stage : Stage} {process : ProcessId}
    (h : scenario.process? i stage = some process) : process = i := by
  unfold process? at h
  split at h <;> simp_all

theorem loss?_of_none {i : Nat} {stage : Stage} (h : scenario.process? i stage = none) :
    scenario.loss? i stage = none := by
  simp [loss?, h]

theorem loss?_of_some {i : Nat} {stage : Stage} {process : ProcessId}
    (h : scenario.process? i stage = some process) :
    scenario.loss? i stage =
      (scenario.lost process).map (.wait stage.command.name (i + 1)) := by
  simp [loss?, h]

theorem loss?_eq_some_iff {i : Nat} {stage : Stage} {failure : RunError} :
    scenario.loss? i stage = some failure ↔
      ∃ cause, scenario.Lost i stage cause ∧ failure = .wait stage.command.name (i + 1) cause := by
  cases hp : scenario.process? i stage with
  | none => simp [loss?, Lost, hp]
  | some process =>
    obtain rfl := scenario.process?_eq hp
    simp [loss?, Lost, hp, eq_comm]

theorem firstLoss_cons (index : Nat) (stage : Stage) (stages : List Stage) :
    scenario.firstLoss index (stage :: stages) =
      (scenario.loss? index stage).or (scenario.firstLoss (index + 1) stages) := by
  cases h : scenario.loss? index stage <;>
    simp [firstLoss, List.zipIdx_cons, h]

theorem firstLoss_append (index : Nat) (before after : List Stage) :
    scenario.firstLoss index (before ++ after) =
      (scenario.firstLoss index before).or (scenario.firstLoss (index + before.length) after) := by
  simp [firstLoss, List.zipIdx_append, List.findSome?_append]

theorem Reaped.firstLoss {stages : List Stage} (h : scenario.Reaped stages) :
    scenario.firstLoss 0 stages = none := by
  rw [Scenario.firstLoss, List.findSome?_eq_none_iff]
  rintro ⟨stage, i⟩ hm
  cases hl : scenario.loss? i stage with
  | none => exact hl
  | some failure =>
    obtain ⟨cause, hlost, -⟩ := scenario.loss?_eq_some_iff.mp hl
    exact absurd hlost (h i stage (List.mem_zipIdx_iff_getElem?.mp hm) cause)

/-- The first wait that fails is the one that is told. -/
theorem firstLoss_of_lost {before rest : List Stage} {stage : Stage} {cause : Fault}
    (h : scenario.Reaped before) (hl : scenario.Lost before.length stage cause) :
    scenario.firstLoss 0 (before ++ stage :: rest) =
      some (.wait stage.command.name (before.length + 1) cause) := by
  have hfirst : scenario.loss? before.length stage =
      some (.wait stage.command.name (before.length + 1) cause) :=
    scenario.loss?_eq_some_iff.mpr ⟨cause, hl, rfl⟩
  rw [firstLoss_append, h.firstLoss, Option.none_or, Nat.zero_add, firstLoss_cons, hfirst,
    Option.some_or]

theorem attempt_of_fatal {i : Nat} {stage : Stage} {cause : Fault}
    (h : scenario.Fatal i stage cause) : scenario.attempt i stage = .error cause := by
  obtain ⟨hp, hs, hc⟩ := h
  obtain ⟨path, hp⟩ := Option.isSome_iff_exists.mp hp
  simp [attempt, hp, hs, endingOfFault_eq_none_iff.mpr hc]

theorem attempt_of_not_fatal {i : Nat} {stage : Stage}
    (h : ∀ cause, ¬ scenario.Fatal i stage cause) :
    scenario.attempt i stage = .ok (scenario.launch i stage) := by
  cases hp : stage.path? with
  | none => simp [attempt, launch, process?, ending, hp]
  | some path =>
    cases hs : scenario.spawn i with
    | ok word => simp [attempt, launch, process?, hp, hs]
    | error cause =>
      have hc : cause ∈ harmless := by
        by_contra hc
        exact h cause ⟨by simp [hp], hs, hc⟩
      simp only [harmless, List.mem_cons, List.not_mem_nil, or_false] at hc
      rcases hc with rfl | rfl | rfl | rfl <;>
        simp [attempt, launch, process?, ending, endingOfFault, hp, hs]

theorem Harmless.cons {index : Nat} {stage : Stage} {stages : List Stage}
    (h : ∀ cause, ¬ scenario.Fatal index stage cause)
    (hs : scenario.Harmless (index + 1) stages) : scenario.Harmless index (stage :: stages) := by
  intro j later hj
  cases j with
  | zero =>
    obtain rfl : stage = later := by simpa using hj
    exact h
  | succ j =>
    have hn : index + (j + 1) = index + 1 + j := by omega
    rw [hn]
    exact hs j later (by simpa using hj)

theorem Harmless.head {index : Nat} {stage : Stage} {stages : List Stage}
    (h : scenario.Harmless index (stage :: stages)) (cause : Fault) :
    ¬ scenario.Fatal index stage cause := h 0 stage rfl cause

theorem Harmless.tail {index : Nat} {stage : Stage} {stages : List Stage}
    (h : scenario.Harmless index (stage :: stages)) : scenario.Harmless (index + 1) stages := by
  intro j later hj cause
  have hf := h (j + 1) later (by simpa using hj) cause
  have hn : index + (j + 1) = index + 1 + j := by omega
  rwa [hn] at hf

def pipeHandles (pipes : Nat) : List Handle :=
  (List.range pipes).flatMap fun pipe =>
    [scenario.handle (.reading pipe), scenario.handle (.writing pipe)]

def handles (pipes : Nat) : List Handle :=
  scenario.handle .input :: scenario.handle .output :: scenario.pipeHandles pipes

def launchEvents (last index : Nat) (stages : List Stage) : List Event :=
  (stages.zipIdx index).flatMap fun (stage, i) => scenario.stageEvents last i stage

def launches (index : Nat) (stages : List Stage) : List (String × Attempt) :=
  (stages.zipIdx index).map fun (stage, i) => (stage.command.name, scenario.launch i stage)

def processes (index : Nat) (stages : List Stage) : List ProcessId :=
  (stages.zipIdx index).filterMap fun (stage, i) => scenario.process? i stage

def stageEnds (index : Nat) (stages : List Stage) : List StageEnd :=
  (stages.zipIdx index).map fun (stage, i) =>
    ⟨i + 1, stage.command.name, scenario.ending i stage⟩

theorem launches_cons (index : Nat) (stage : Stage) (stages : List Stage) :
    scenario.launches index (stage :: stages) =
      (stage.command.name, scenario.launch index stage) ::
        scenario.launches (index + 1) stages := rfl

theorem stageEnds_cons (index : Nat) (stage : Stage) (stages : List Stage) :
    scenario.stageEnds index (stage :: stages) =
      ⟨index + 1, stage.command.name, scenario.ending index stage⟩ ::
        scenario.stageEnds (index + 1) stages := rfl

theorem processes_cons (index : Nat) (stage : Stage) (stages : List Stage) :
    scenario.processes index (stage :: stages) =
      (scenario.process? index stage).toList ++ scenario.processes (index + 1) stages := by
  cases h : scenario.process? index stage <;>
    simp [processes, List.zipIdx_cons, h]

theorem launchEvents_append_singleton (last : Nat) (stages : List Stage) (stage : Stage) :
    scenario.launchEvents last 0 (stages ++ [stage]) =
      scenario.launchEvents last 0 stages ++ scenario.stageEvents last stages.length stage := by
  simp [launchEvents, List.zipIdx_append]

theorem openEvents_acquired (count : Nat) :
    (scenario.openEvents 0 count).flatMap Event.acquired = scenario.pipeHandles count := by
  rw [openEvents, List.flatMap_map, ← List.range_eq_range']
  rfl

theorem launchEvents_acquired (last index : Nat) (stages : List Stage) :
    (scenario.launchEvents last index stages).flatMap Event.acquired = [] := by
  rw [launchEvents, List.flatMap_assoc, List.flatMap_eq_nil_iff]
  rintro ⟨stage, i⟩ -
  cases h : scenario.request? last i stage <;> simp [stageEvents, h, Event.acquired]

theorem closes_append (log more : List Event) : closes (log ++ more) = closes log ++ closes more :=
  List.filterMap_append

theorem closes_stageEvents (last i : Nat) (stage : Stage) :
    closes (scenario.stageEvents last i stage) =
      [scenario.handle (inputEnd i), scenario.handle (outputEnd last i)] := by
  cases h : scenario.request? last i stage <;>
    simp [closes, stageEvents, h, Event.closed?, List.filterMap_cons]

/-- The events of a stage, when the ends that are meant for it are still owned. -/
theorem startsOwned_append_stage {log : List Event} {last i : Nat}
    (h : StartsOwned scenario.outer log) (stage : Stage)
    (ho : (scenario.stageHandles last i : Multiset Handle) ≤ owned scenario.outer log) :
    StartsOwned scenario.outer (log ++ scenario.stageEvents last i stage) := by
  rw [stageEvents, ← List.append_assoc]
  refine StartsOwned.append ?_ (by simp [Event.request?])
  cases hr : scenario.request? last i stage with
  | none =>
    rw [Option.map_none, Option.toList_none, List.append_nil]
    exact h
  | some request =>
    refine h.append_event fun found answer he => ?_
    obtain ⟨rfl, -⟩ := Event.started.inj he
    rwa [scenario.request?_handles hr]

/-- Between two stages: `before` have been started and `rest` have not. -/
structure Progress (last : Nat) (before rest : List Stage) (plumbing : Plumbing)
    (record : Record) : Prop where
  inputs : ∀ j, before.length ≤ j → j ≤ last →
    (plumbing.takeInput j).1 = some (scenario.handle (inputEnd j))
  outputs : ∀ j, before.length ≤ j → j ≤ last →
    (plumbing.takeOutput j last).1 = some (scenario.handle (outputEnd last j))
  pending : record.pending = Stage.programs before.length rest
  log : record.log = scenario.openEvents 0 last ++ scenario.launchEvents last 0 before
  held : (closes record.log ++ plumbing.held).Perm (scenario.handles last)
  starts : StartsOwned scenario.outer record.log

variable {scenario} {last : Nat}

/-- Between two stages the shell owns what is left for the stages to come. -/
theorem Progress.owned {before rest : List Stage} {plumbing : Plumbing} {record : Record}
    (h : scenario.Progress last before rest plumbing record) :
    owned scenario.outer record.log = plumbing.held := by
  have ha : acquired scenario.outer record.log = scenario.handles last := by
    rw [acquired, h.log, List.flatMap_append, openEvents_acquired, launchEvents_acquired,
      List.append_nil]
    rfl
  rw [Execution.owned, ha, ← Multiset.coe_eq_coe.mpr h.held, ← Multiset.coe_add,
    add_tsub_cancel_left]

/-- One stage: it gets the two ends that are meant for it, and they are closed again. -/
theorem Progress.step {before rest : List Stage} {stage : Stage} {plumbing : Plumbing}
    {record : Record} (h : scenario.Progress last before (stage :: rest) plumbing record)
    (hl : before.length ≤ last) :
    let input := plumbing.takeInput before.length
    let output := input.2.takeOutput before.length last
    ∃ record', startStage scenario.system stage input.1 output.1 record =
        (scenario.attempt before.length stage, record') ∧
      scenario.Progress last (before ++ [stage]) rest output.2 record' := by
  intro input output
  have hi : input.1 = some (scenario.handle (inputEnd before.length)) :=
    h.inputs before.length (Nat.le_refl _) hl
  have ho : output.1 = some (scenario.handle (outputEnd last before.length)) :=
    plumbing.takeOutput_of_takeInput.trans (h.outputs before.length (Nat.le_refl _) hl)
  -- the two ends leave what is still owned and join what is closed
  have hheld : (scenario.stageHandles last before.length ++ output.2.held).Perm plumbing.held := by
    have hin := plumbing.takeInput_held before.length
    have hout := input.2.takeOutput_held before.length last
    change (input.1.toList ++ input.2.held).Perm plumbing.held at hin
    change (output.1.toList ++ output.2.held).Perm input.2.held at hout
    rw [hi] at hin
    rw [ho] at hout
    exact (hout.cons _).trans hin
  rw [hi, ho]
  refine ⟨_, scenario.startStage_system last before.length stage h.pending, ?_⟩
  constructor
  · intro j hj hjl
    rw [List.length_append, List.length_singleton] at hj
    exact Plumbing.takeInput_of_takeOutput _ |>.trans
      ((plumbing.takeInput_of_takeInput (by omega)).trans (h.inputs j (by omega) hjl))
  · intro j hj hjl
    rw [List.length_append, List.length_singleton] at hj
    exact (Plumbing.takeOutput_of_takeOutput _ (by omega)).trans
      (plumbing.takeOutput_of_takeInput.trans (h.outputs j (by omega) hjl))
  · simp
  · simp only [h.log, launchEvents_append_singleton, List.append_assoc]
  · rw [closes_append, closes_stageEvents, List.append_assoc]
    exact (hheld.append_left _).trans h.held
  · refine scenario.startsOwned_append_stage h.starts stage ?_
    rw [h.owned]
    exact Multiset.coe_le.mpr ((List.sublist_append_left _ _).subperm.trans hheld.subperm)

theorem startFrom_append {before stages rest : List Stage} {plumbing : Plumbing} {record : Record}
    (h : scenario.Progress last before (stages ++ rest) plumbing record)
    (hl : before.length + stages.length ≤ last + 1)
    (hs : scenario.Harmless before.length stages) :
    ∃ plumbing' record', scenario.Progress last (before ++ stages) rest plumbing' record' ∧
      startFrom scenario.system last before.length plumbing record (stages ++ rest) =
        let later := startFrom scenario.system last (before ++ stages).length plumbing' record' rest
        { later with launched := scenario.launches before.length stages ++ later.launched } := by
  -- `before` takes up the stages one by one, so the invariant is always about the whole past
  induction stages generalizing before plumbing record with
  | nil =>
    refine ⟨plumbing, record, by simpa using h, ?_⟩
    simp [launches]
  | cons stage stages ih =>
    rw [List.length_cons] at hl
    obtain ⟨record₁, hstart, hp⟩ := h.step (by omega)
    rw [attempt_of_not_fatal _ hs.head] at hstart
    have hlen : (before ++ [stage]).length = before.length + 1 := by simp
    obtain ⟨plumbing', record', hp', he⟩ :=
      ih hp (by rw [hlen]; omega) (by rw [hlen]; exact hs.tail)
    rw [List.append_assoc, List.singleton_append] at hp' he
    rw [hlen] at he
    refine ⟨plumbing', record', hp', ?_⟩
    rw [List.cons_append, startFrom]
    simp only [hstart, he, launches_cons, List.cons_append]

theorem startFrom_all {stages : List Stage} {plumbing : Plumbing} {record : Record}
    (h : scenario.Progress last [] stages plumbing record) (hl : stages.length ≤ last + 1)
    (hs : scenario.Harmless 0 stages) :
    ∃ plumbing' record', scenario.Progress last stages [] plumbing' record' ∧
      startFrom scenario.system last 0 plumbing record stages =
        ⟨scenario.launches 0 stages, none, plumbing', record'⟩ := by
  rw [← List.append_nil stages] at h
  obtain ⟨plumbing', record', hp, he⟩ := startFrom_append h (by simpa using hl) hs
  rw [List.append_nil, List.nil_append] at *
  exact ⟨plumbing', record', hp, by simpa [startFrom] using he⟩

/-- A fatal stage is the last that anyone tries to start. -/
theorem startFrom_fatal {stages rest : List Stage} {stage : Stage} {cause : Fault}
    {plumbing : Plumbing} {record : Record}
    (h : scenario.Progress last [] (stages ++ stage :: rest) plumbing record)
    (hl : stages.length ≤ last) (hs : scenario.Harmless 0 stages)
    (hf : scenario.Fatal stages.length stage cause) :
    ∃ plumbing' record', scenario.Progress last (stages ++ [stage]) rest plumbing' record' ∧
      startFrom scenario.system last 0 plumbing record (stages ++ stage :: rest) =
        ⟨scenario.launches 0 stages, some (.start stage.command.name (stages.length + 1) cause),
          plumbing', record'⟩ := by
  obtain ⟨plumbing₁, record₁, hp₁, he⟩ := startFrom_append h (by simp; omega) hs
  rw [List.nil_append] at hp₁ he
  obtain ⟨record', hstart, hp⟩ := hp₁.step hl
  rw [attempt_of_fatal _ hf] at hstart
  refine ⟨_, record', hp, ?_⟩
  have h0 : ([] : List Stage).length = 0 := rfl
  rw [h0] at he
  rw [he, startFrom]
  simp only [hstart, List.append_nil]

variable (scenario)

/-- Whether or not a wait fails, each process is waited for once, and the first wait that fails is
what the waiting gives. If none does, each stage gets its ending. -/
theorem waitFrom_launches (index : Nat) (stages : List Stage) (record : Record) :
    let waited := waitFrom scenario.system (index + 1) record (scenario.launches index stages)
    waited.failure = scenario.firstLoss index stages ∧
    (scenario.firstLoss index stages = none →
      waited.ended = scenario.stageEnds index stages) ∧
    waited.world =
      { record with log := record.log ++ (scenario.processes index stages).map .waited } := by
  induction stages generalizing index record with
  | nil => exact ⟨rfl, fun _ => rfl, by simp [waitFrom, launches, processes]⟩
  | cons stage stages ih =>
    rw [launches_cons, stageEnds_cons, processes_cons, firstLoss_cons]
    cases hp : scenario.process? index stage with
    | none =>
      obtain ⟨hf, he, hw⟩ := ih (index + 1) record
      rw [launch_of_none _ hp, waitFrom, scenario.loss?_of_none hp]
      exact ⟨hf, fun hn => congrArg _ (he hn), hw⟩
    | some process =>
      obtain ⟨hf, he, hw⟩ :=
        ih (index + 1) { record with log := record.log ++ [.waited process] }
      rw [List.append_assoc] at hw
      rw [launch_of_some _ hp, waitFrom, system_wait, waitAnswer, scenario.loss?_of_some hp]
      cases scenario.lost process with
      | none =>
        simp only [ofWaitWord_waitWord _ hp]
        exact ⟨hf, fun hn => congrArg _ (he hn), hw⟩
      | some cause => exact ⟨rfl, fun hn => absurd hn (Option.some_ne_none _), hw⟩

end PipeShell.Execution.Scenario
