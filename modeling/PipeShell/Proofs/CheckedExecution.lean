import PipeShell.Proofs.ExecutionStages

/-!
# A run in which every step is checked

The run of a pipeline once more, over a plain list of commands and a plain list of targets: what is
only defined inside a range or for a list that is not empty is a `Violation` elsewhere. Positions
count the elements of lists that are held in memory and are not checked.

Main statement: if each command comes with its target and there is a command at all, nothing is
violated, not even where a run is given up half way, and the run is that of the pipeline. A run of
which a wait failed has fewer endings than stages, but no completion; the completion of any other run
has a status.
-/
namespace PipeShell

variable {σ α : Type}

/-- A step outside of its range. -/
inductive Violation where
  /-- The first command is asked for, and there is none. -/
  | noCommand
  /-- The first target is asked for, and there is none. -/
  | noTarget
  | unequalLengths (commands targets : Nat)
  /-- The last stage is asked for, and there is none. -/
  | noStages
  | noPipe (index : Nat)
  | noName (index : Nat)
  /-- A signal so great that 128 above it is no number of 32 bits. -/
  | overflow (signal : Int32)
  /-- The status of a completion without stages. -/
  | noStatus
  deriving DecidableEq, Repr

abbrev Checked := Except Violation

def Checked.nth (violation : Violation) (items : List α) (index : Nat) : Checked α :=
  match items[index]? with
  | some item => .ok item
  | none => .error violation

theorem Checked.nth_eq {violation : Violation} {items : List α} {index : Nat} {item : α}
    (h : items[index]? = some item) : Checked.nth violation items index = .ok item := by
  simp only [Checked.nth, h]

def Stage.pair (stage : Stage) : Command × Target := (stage.command, stage.target)

def Ending.checkedCode : Ending → Checked Int32
  | .signaled signal =>
    if 128 + signal.toInt < 2 ^ 31 then .ok (128 + signal) else .error (.overflow signal)
  | .exited code => .ok code
  | .notFound => .ok 127
  | .notExecutable => .ok 126

def Completion.checkedStatus (completion : Completion) : Checked Int32 :=
  match completion.stages.getLast? with
  | some stage => stage.ending.checkedCode
  | none => .error .noStatus

namespace Execution

/-- Hands out what a stage reads from, which has to be the outer input or a pipe that exists. -/
def Plumbing.checkedInput (plumbing : Plumbing) (stage : Nat) :
    Checked (Option Handle × Plumbing) :=
  if stage = 0 ∨ stage - 1 < plumbing.pipes.pipes.length then .ok (plumbing.takeInput stage)
  else .error (.noPipe (stage - 1))

def Plumbing.checkedOutput (plumbing : Plumbing) (stage last : Nat) :
    Checked (Option Handle × Plumbing) :=
  if stage = last ∨ stage < plumbing.pipes.pipes.length then .ok (plumbing.takeOutput stage last)
  else .error (.noPipe stage)

structure CheckedStart (σ : Type) where
  launched : List (Nat × Attempt)
  failure : Option RunError
  plumbing : Plumbing
  world : σ

def checkedStart (system : System σ) (last : Nat) (index : Nat) (plumbing : Plumbing) (world : σ) :
    List (Command × Target) → Checked (CheckedStart σ)
  | [] => .ok ⟨[], none, plumbing, world⟩
  | (command, target) :: rest => do
    let input ← plumbing.checkedInput index
    let output ← input.2.checkedOutput index last
    match startStage system ⟨command, target⟩ input.1 output.1 world with
    | (.error cause, world) =>
      return ⟨[], some (.start command.name (index + 1) cause), output.2, world⟩
    | (.ok launch, world) =>
      let later ← checkedStart system last (index + 1) output.2 world rest
      return { later with launched := (index, launch) :: later.launched }

/-- Waits for the launched stages in order; their names are looked up among the commands. -/
def checkedWait (system : System σ) (commands : List Command) (world : σ) :
    List (Nat × Attempt) → Checked (Waited σ)
  | [] => .ok ⟨[], none, world⟩
  | (index, attempt) :: rest => do
    let command ← Checked.nth (.noName index) commands index
    match attempt with
    | .ended ending =>
      let later ← checkedWait system commands world rest
      return { later with ended := ⟨index + 1, command.name, ending⟩ :: later.ended }
    | .running process =>
      match system.wait process world with
      | (.ok word, world) =>
        let later ← checkedWait system commands world rest
        return { later with ended := ⟨index + 1, command.name, .ofWaitWord word⟩ :: later.ended }
      | (.error cause, world) =>
        let later ← checkedWait system commands world rest
        return { later with failure := some (.wait command.name (index + 1) cause) }

def checkedRun (system : System σ) (commands : List Command) (targets : List Target)
    (outer : OuterStreams) (world : σ) : Checked (Except RunError Completion × σ) := do
  if commands.length ≠ targets.length then
    throw (.unequalLengths commands.length targets.length)
  if commands.length = 0 then throw .noStages
  let last := commands.length - 1
  match Conduits.openFor system commands.length world with
  | (.error cause, world) =>
    return (.error (.pipe cause), Conduits.closeAll system [outer.input, outer.output] world)
  | (.ok pipes, world) =>
    let started ← checkedStart system last 0 ⟨some outer.input, some outer.output, pipes⟩ world
      (commands.zip targets)
    let closed := Conduits.closeAll system started.plumbing.held started.world
    let finished ← checkedWait system commands closed started.launched
    match started.failure.or finished.failure with
    | some failure => return (.error failure, finished.world)
    | none => return (.ok ⟨finished.ended⟩, finished.world)

variable {system : System σ}

/-- What is launched, with the number of each stage in place of its name. -/
def numbered (index : Nat) (launched : List (String × Attempt)) : List (Nat × Attempt) :=
  (launched.zipIdx index).map fun (launch, i) => (i, launch.2)

theorem numbered_cons (index : Nat) (launch : String × Attempt)
    (launched : List (String × Attempt)) :
    numbered index (launch :: launched) = (index, launch.2) :: numbered (index + 1) launched := rfl

theorem Plumbing.takeInput_pipes (plumbing : Plumbing) (stage : Nat) :
    (plumbing.takeInput stage).2.pipes.pipes.length = plumbing.pipes.pipes.length := by
  unfold takeInput
  cases stage with
  | zero => rfl
  | succ before => simp [Conduits.takeReading]

theorem Plumbing.takeOutput_pipes (plumbing : Plumbing) (stage last : Nat) :
    (plumbing.takeOutput stage last).2.pipes.pipes.length = plumbing.pipes.pipes.length := by
  unfold takeOutput
  by_cases hl : stage = last
  · rw [if_pos hl]
  · rw [if_neg hl]
    simp [Conduits.takeWriting]

/-- With one pipe less than there are stages, every stage finds its pipes. -/
theorem checkedStart_eq (system : System σ) (last index : Nat) (plumbing : Plumbing)
    (stages : List Stage) (w : σ)
    (hp : plumbing.pipes.pipes.length = last) (hs : index + stages.length = last + 1) :
    checkedStart system last index plumbing w (stages.map Stage.pair) =
      let started := startFrom system last index plumbing w stages
      .ok ⟨numbered index started.launched, started.failure, started.plumbing, started.world⟩ := by
  induction stages generalizing index plumbing w with
  | nil => rfl
  | cons stage rest ih =>
    rw [List.length_cons] at hs
    have hin : plumbing.checkedInput index = .ok (plumbing.takeInput index) := by
      refine if_pos ?_
      omega
    have hout : (plumbing.takeInput index).2.checkedOutput index last =
        .ok ((plumbing.takeInput index).2.takeOutput index last) := by
      refine if_pos ?_
      rw [plumbing.takeInput_pipes, hp]
      omega
    have hp' : ((plumbing.takeInput index).2.takeOutput index last).2.pipes.pipes.length = last := by
      rw [Plumbing.takeOutput_pipes, Plumbing.takeInput_pipes, hp]
    rw [List.map_cons, Stage.pair, checkedStart, hin]
    simp only [Bind.bind, Except.bind, hout, startFrom]
    cases startStage system stage (plumbing.takeInput index).1
      ((plumbing.takeInput index).2.takeOutput index last).1 w with
    | mk answer w' =>
      cases answer with
      | error cause => rfl
      | ok launch =>
        simp only [ih (index + 1) _ w' hp' (by omega)]
        rfl

theorem startFrom_names {last index : Nat} {plumbing : Plumbing} {stages : List Stage} {w : σ}
    {i : Nat} {launch : String × Attempt}
    (h : (startFrom system last index plumbing w stages).launched[i]? = some launch) :
    ∃ stage, stages[i]? = some stage ∧ stage.command.name = launch.1 := by
  induction stages generalizing index plumbing w i with
  | nil => cases h
  | cons stage rest ih =>
    simp only [startFrom] at h
    split at h
    · cases h
    · cases i with
      | zero =>
        obtain rfl := Option.some.inj h
        exact ⟨stage, rfl, rfl⟩
      | succ i => exact ih h

/-- Every launched stage finds its name, also where later stages were not launched. -/
theorem checkedWait_eq (system : System σ) (commands : List Command) (index : Nat)
    (launched : List (String × Attempt)) (w : σ)
    (h : ∀ i launch, launched[i]? = some launch →
      ∃ command, commands[index + i]? = some command ∧ command.name = launch.1) :
    checkedWait system commands w (numbered index launched) =
      .ok (waitFrom system (index + 1) w launched) := by
  induction launched generalizing index w with
  | nil => rfl
  | cons launch rest ih =>
    obtain ⟨name, attempt⟩ := launch
    obtain ⟨command, hcommand, rfl⟩ := h 0 _ rfl
    rw [Nat.add_zero] at hcommand
    have hrest (i : Nat) (launch : String × Attempt) (hi : rest[i]? = some launch) :
        ∃ command, commands[index + 1 + i]? = some command ∧ command.name = launch.1 := by
      have hnext := h (i + 1) launch hi
      rwa [show index + (i + 1) = index + 1 + i by omega] at hnext
    rw [numbered_cons, checkedWait, Checked.nth_eq hcommand]
    cases attempt with
    | ended ending =>
      simp only [Bind.bind, Except.bind, ih (index + 1) w hrest]
      rfl
    | running process =>
      simp only [waitFrom]
      cases system.wait process w with
      | mk answer w' =>
        have hlater := ih (index + 1) w' hrest
        cases answer with
        | ok word =>
          simp only [Bind.bind, Except.bind, hlater]
          rfl
        | error cause =>
          simp only [Bind.bind, Except.bind, hlater]
          rfl

theorem openFrom_length {opened : List Conduit} {count : Nat} {w w' : σ} {pipes : Conduits}
    (h : Conduits.openFrom system opened count w = (.ok pipes, w')) :
    pipes.pipes.length = opened.length + count := by
  induction count generalizing opened w with
  | zero =>
    simp only [Conduits.openFrom, Prod.mk.injEq, Except.ok.injEq] at h
    rw [← h.1]
    rfl
  | succ count ih =>
    simp only [Conduits.openFrom] at h
    split at h
    · have hlength := ih h
      rw [List.length_append, List.length_singleton] at hlength
      omega
    · cases h

/-- A checked run violates nothing and is the run of the pipeline. -/
theorem checkedRun_eq {stages : List Stage} (hne : stages ≠ []) (outer : OuterStreams) (w : σ) :
    checkedRun system (stages.map Stage.command) (stages.map Stage.target) outer w =
      .ok (run system stages outer w) := by
  have hpos : stages.length ≠ 0 := by
    rwa [ne_eq, List.length_eq_zero_iff]
  have hzip : (stages.map Stage.command).zip (stages.map Stage.target) = stages.map Stage.pair :=
    List.zip_map'
  unfold checkedRun run
  simp only [List.length_map, ne_eq, not_true_eq_false, if_false, hpos, hzip]
  cases ho : Conduits.openFor system stages.length w with
  | mk answer w' =>
    cases answer with
    | error cause => rfl
    | ok pipes =>
      have hpipes : pipes.pipes.length = stages.length - 1 := by
        have hlength := openFrom_length ho
        simpa using hlength
      have hstart := checkedStart_eq system (stages.length - 1) 0
        ⟨some outer.input, some outer.output, pipes⟩ stages w' hpipes (by omega)
      have hnames (i : Nat) (launch : String × Attempt) (hi : (startFrom system (stages.length - 1) 0
          ⟨some outer.input, some outer.output, pipes⟩ w' stages).launched[i]? = some launch) :
          ∃ command, (stages.map Stage.command)[0 + i]? = some command ∧ command.name = launch.1 := by
        obtain ⟨stage, hstage, hname⟩ := startFrom_names hi
        refine ⟨stage.command, ?_, hname⟩
        rw [Nat.zero_add, List.getElem?_map, hstage]
        rfl
      simp only [Bind.bind, Except.bind, hstart]
      generalize startFrom system (stages.length - 1) 0
        ⟨some outer.input, some outer.output, pipes⟩ w' stages = started at hnames ⊢
      rw [checkedWait_eq system _ 0 started.launched _ hnames, Nat.zero_add]
      generalize waitFrom system 1 _ started.launched = finished
      simp only
      cases started.failure.or finished.failure with
      | none => rfl
      | some failure => rfl

example (outer : OuterStreams) (w : σ) : checkedRun system [] [] outer w = .error .noStages := rfl

end Execution

/-! The codes of a run that is not given up are numbers of 32 bits. -/

namespace Ending

theorem checkedCode_eq {ending : Ending}
    (h : ∀ signal, ending = .signaled signal → signal.toInt < 128) :
    ending.checkedCode = .ok ending.code := by
  cases ending with
  | signaled signal =>
    have hlow := h signal rfl
    refine if_pos ?_
    omega
  | exited code => rfl
  | notFound => rfl
  | notExecutable => rfl

theorem checkedCode_ofWaitWord (word : Int32) :
    (ofWaitWord word).checkedCode = .ok (ofWaitWord word).code := by
  refine checkedCode_eq fun signal h => ?_
  unfold ofWaitWord at h
  split at h
  · cases h
  · split at h
    · cases h
    · cases h
      have hbits : signalBits word < 128 := Nat.mod_lt _ (by decide)
      have hvalue : (Int32.ofNat (signalBits word)).toInt = signalBits word :=
        Int32.toInt_ofNat_of_lt (by omega)
      omega

end Ending

namespace Execution

variable {system : System σ}

theorem endingOfFault_checkedCode {cause : Fault} {ending : Ending}
    (h : endingOfFault cause = some ending) : ending.checkedCode = .ok ending.code := by
  unfold endingOfFault at h
  split at h <;> cases h <;> rfl

theorem startStage_checkedCode {stage : Stage} {input output : Option Handle} {w : σ}
    {ending : Ending} (h : (startStage system stage input output w).1 = .ok (.ended ending)) :
    ending.checkedCode = .ok ending.code := by
  unfold startStage at h
  cases ht : stage.target with
  | builtin kind =>
    simp only [ht, Except.ok.injEq, Attempt.ended.injEq] at h
    rw [← h]
    rfl
  | unknown =>
    simp only [ht, Except.ok.injEq, Attempt.ended.injEq] at h
    rw [← h]
    rfl
  | external path =>
    simp only [ht] at h
    split at h
    · cases h
    · next cause _ _ =>
      cases he : endingOfFault cause with
      | none =>
        rw [he] at h
        cases h
      | some found =>
        simp only [he, Except.ok.injEq, Attempt.ended.injEq] at h
        rw [← h]
        exact endingOfFault_checkedCode he

theorem startFrom_checkedCode (last index : Nat) (plumbing : Plumbing) (stages : List Stage) (w : σ)
    {name : String} {ending : Ending}
    (h : (name, .ended ending) ∈ (startFrom system last index plumbing w stages).launched) :
    ending.checkedCode = .ok ending.code := by
  induction stages generalizing index plumbing w with
  | nil => cases h
  | cons stage rest ih =>
    simp only [startFrom] at h
    split at h
    · cases h
    · next launch w' hs =>
      rcases List.mem_cons.mp h with hfirst | hlater
      · cases hfirst
        exact startStage_checkedCode (congrArg Prod.fst hs)
      · exact ih _ _ _ hlater

theorem waitFrom_checkedCode (position : Nat) (launched : List (String × Attempt)) (w : σ)
    (h : ∀ name ending, (name, .ended ending) ∈ launched →
      ending.checkedCode = .ok ending.code) :
    ∀ stageEnd ∈ (waitFrom system position w launched).ended,
      stageEnd.ending.checkedCode = .ok stageEnd.ending.code := by
  induction launched generalizing position w with
  | nil =>
    intro stageEnd hmem
    cases hmem
  | cons launch rest ih =>
    obtain ⟨name, attempt⟩ := launch
    have hrest (name : String) (ending : Ending) (hmem : (name, .ended ending) ∈ rest) :=
      h name ending (List.mem_cons_of_mem _ hmem)
    intro stageEnd hmem
    cases attempt with
    | ended ending =>
      rcases List.mem_cons.mp hmem with rfl | hlater
      · exact h name ending List.mem_cons_self
      · exact ih (position + 1) w hrest stageEnd hlater
    | running process =>
      simp only [waitFrom] at hmem
      split at hmem
      · rcases List.mem_cons.mp hmem with rfl | hlater
        · exact Ending.checkedCode_ofWaitWord _
        · exact ih (position + 1) _ hrest stageEnd hlater
      · exact ih (position + 1) _ hrest stageEnd hmem

/-- The completion of a run has a status. -/
theorem run_checkedStatus {stages : List Stage} (hne : stages ≠ []) {outer : OuterStreams} {w : σ}
    {completion : Completion} (h : (run system stages outer w).1 = .ok completion) :
    completion.checkedStatus = .ok completion.status := by
  have hlength := (run_ended h).length_eq
  rw [List.length_zipIdx] at hlength
  have hcodes : ∀ stageEnd ∈ completion.stages,
      stageEnd.ending.checkedCode = .ok stageEnd.ending.code := by
    unfold run at h
    split at h
    · cases h
    · next pipes w' ho =>
      simp only at h
      split at h
      · cases h
      · injection h with h
        rw [← h]
        exact waitFrom_checkedCode 1 _ _ fun name ending hmem =>
          startFrom_checkedCode _ _ _ _ _ hmem
  unfold Completion.checkedStatus Completion.status
  cases hl : completion.stages.getLast? with
  | none =>
    rw [List.getLast?_eq_none_iff] at hl
    rw [hl, List.length_nil, List.length_eq_zero_iff] at hlength
    exact absurd hlength hne
  | some stageEnd => exact hcodes stageEnd (List.mem_of_getLast? hl)

end Execution

end PipeShell
