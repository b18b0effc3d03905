import PipeShell.Proofs.ExecutionScenario
import PipeShell.Shell

/-!
# The stages of a completed run

Whatever the system answers, a run that is not given up has one ending for each stage, in their
order. A stage whose name refers to no program, a built-in included, is not found.
-/
namespace PipeShell.Execution

variable {σ : Type} {system : System σ}

def Launched (stage : Stage) (launch : String × Attempt) : Prop :=
  launch.1 = stage.command.name ∧ (stage.path? = none → launch.2 = .ended .notFound)

def EndedAt (position : Nat) (stage : Stage) (stageEnd : StageEnd) : Prop :=
  ∃ ending, stageEnd = ⟨position, stage.command.name, ending⟩ ∧
    (stage.path? = none → ending = .notFound)

theorem launched_of_startStage {stage : Stage} {input output : Option Handle} {w : σ}
    {launch : Attempt} (h : (startStage system stage input output w).1 = .ok launch) :
    Launched stage (stage.command.name, launch) := by
  refine ⟨rfl, fun hp => ?_⟩
  unfold Stage.path? at hp
  unfold startStage at h
  cases ht : stage.target with
  | builtin kind => simpa [ht, eq_comm] using h
  | unknown => simpa [ht, eq_comm] using h
  | external path => simp [ht] at hp

theorem startFrom_launched (last index : Nat) (plumbing : Plumbing) (stages : List Stage) (w : σ)
    (h : (startFrom system last index plumbing w stages).failure = none) :
    List.Forall₂ Launched stages (startFrom system last index plumbing w stages).launched := by
  induction stages generalizing index plumbing w with
  | nil => exact .nil
  | cons stage rest ih =>
    simp only [startFrom] at h ⊢
    split at h
    · cases h
    · next launch w' hs =>
      exact .cons (launched_of_startStage (congrArg Prod.fst hs)) (ih _ _ _ h)

/-- When no wait fails, each launched stage has an ending. -/
theorem waitFrom_ended (position : Nat) {stages : List Stage} {launched : List (String × Attempt)}
    (h : List.Forall₂ Launched stages launched) (w : σ)
    (hw : (waitFrom system position w launched).failure = none) :
    List.Forall₂ (fun (stage, i) => EndedAt i stage) (stages.zipIdx position)
      (waitFrom system position w launched).ended := by
  induction h generalizing position w with
  | nil => exact .nil
  | @cons stage launch stages launched hl _ ih =>
    obtain ⟨name, attempt⟩ := launch
    obtain ⟨rfl, hp⟩ := hl
    rw [List.zipIdx_cons]
    cases attempt with
    | ended ending =>
      refine .cons ⟨ending, rfl, fun hn => ?_⟩ (ih (position + 1) w hw)
      simpa using hp hn
    | running process =>
      simp only [waitFrom] at hw ⊢
      split at hw
      · refine .cons ⟨_, rfl, fun hn => ?_⟩ (ih (position + 1) _ hw)
        cases hp hn
      · cases hw

/-- A run that is not given up ends each of its stages, in their order. -/
theorem run_ended {stages : List Stage} {outer : OuterStreams} {w : σ} {completion : Completion}
    (h : (run system stages outer w).1 = .ok completion) :
    List.Forall₂ (fun (stage, i) => EndedAt i stage) (stages.zipIdx 1) completion.stages := by
  unfold run at h
  split at h
  · cases h
  · next pipes w' ho =>
    simp only at h
    split at h
    · cases h
    · next hf =>
      obtain ⟨hstart, hwait⟩ := Option.or_eq_none_iff.mp hf
      injection h with h
      rw [← h]
      exact waitFrom_ended 1 (startFrom_launched _ _ _ _ _ hstart) _ hwait

theorem runStages_ended {stages : List Stage} {w : σ} {completion : Completion}
    (h : (Shell.runStages system stages w).1 = .ok completion) :
    List.Forall₂ (fun (stage, i) => EndedAt i stage) (stages.zipIdx 1) completion.stages := by
  unfold Shell.runStages at h
  split at h
  · cases h
  · next outer w' ho =>
    split at h
    · next found w'' hr =>
      obtain rfl : found = completion := by simpa using h
      exact run_ended (congrArg Prod.fst hr)
    · cases h

theorem ended_getElem? {position : Nat} {stages : List Stage} {ends : List StageEnd}
    (h : List.Forall₂ (fun (stage, i) => EndedAt i stage) (stages.zipIdx position) ends)
    {i : Nat} {stage : Stage} (hi : stages[i]? = some stage) :
    ∃ stageEnd, ends[i]? = some stageEnd ∧ EndedAt (position + i) stage stageEnd := by
  induction stages generalizing position ends i with
  | nil => cases hi
  | cons first rest ih =>
    rw [List.zipIdx_cons] at h
    cases h with
    | @cons _ stageEnd _ later hfirst hrest =>
      cases i with
      | zero =>
        obtain rfl := Option.some.inj hi
        exact ⟨stageEnd, rfl, hfirst⟩
      | succ i =>
        obtain ⟨found, hf, he⟩ := ih hrest hi
        refine ⟨found, hf, ?_⟩
        rwa [show position + (i + 1) = position + 1 + i by omega]

end PipeShell.Execution
