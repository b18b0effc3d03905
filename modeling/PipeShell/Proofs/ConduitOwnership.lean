import Mathlib
import PipeShell.Execution

/-!
# Who owns the ends of the pipes

Taking an end moves it out of the set: nothing is lost and nothing is copied. What a stage takes
does not change what any other stage, or the other side of the same stage, will be given.
-/
namespace PipeShell.Conduits

theorem held_cons (pipe : Conduit) (pipes : List Conduit) :
    held ⟨pipe :: pipes⟩ = pipe.held ++ held ⟨pipes⟩ := rfl

/-- Emptying one side of a pipe takes exactly what was there out of the set. -/
theorem modify_held (pipes : List Conduit) (index : Nat) (side : Conduit → Option Handle)
    (clear : Conduit → Conduit)
    (h : ∀ pipe, ((side pipe).toList ++ (clear pipe).held).Perm pipe.held) :
    ((pipes[index]?.bind side).toList ++ held ⟨pipes.modify index clear⟩).Perm (held ⟨pipes⟩) := by
  induction pipes generalizing index with
  | nil => simp
  | cons pipe pipes ih =>
    cases index with
    | zero =>
      rw [List.modify_zero_cons, held_cons, held_cons, ← List.append_assoc]
      exact (h pipe).append_right _
    | succ index =>
      rw [List.modify_succ_cons, held_cons, held_cons, List.getElem?_cons_succ]
      calc ((pipes[index]?.bind side).toList ++
              (pipe.held ++ held ⟨pipes.modify index clear⟩)).Perm
            (pipe.held ++ ((pipes[index]?.bind side).toList ++
              held ⟨pipes.modify index clear⟩)) := List.perm_append_comm_assoc _ _ _
        List.Perm _ (pipe.held ++ held ⟨pipes⟩) := (ih index).append_left _

theorem takeReading_held (set : Conduits) (stage : Nat) :
    ((set.takeReading stage).1.toList ++ (set.takeReading stage).2.held).Perm set.held := by
  cases stage with
  | zero => exact List.Perm.refl _
  | succ before =>
    exact modify_held set.pipes before Conduit.reading _ fun pipe => List.Perm.refl _

theorem takeWriting_held (set : Conduits) (stage : Nat) :
    ((set.takeWriting stage).1.toList ++ (set.takeWriting stage).2.held).Perm set.held :=
  modify_held set.pipes stage Conduit.writing _ fun pipe => by
    simpa [Conduit.held] using List.perm_append_comm

variable (set : Conduits) {i j : Nat}

theorem takeReading_of_takeReading (h : i ≠ j) :
    ((set.takeReading i).2.takeReading j).1 = (set.takeReading j).1 := by
  cases i with
  | zero => rfl
  | succ i =>
    cases j with
    | zero => rfl
    | succ j =>
      have hij : i ≠ j := by omega
      simp [takeReading, hij]

theorem takeReading_of_takeWriting :
    ((set.takeWriting i).2.takeReading j).1 = (set.takeReading j).1 := by
  cases j with
  | zero => rfl
  | succ j =>
    simp only [takeReading, takeWriting, List.getElem?_modify]
    split_ifs <;> cases set.pipes[j]? <;> rfl

theorem takeWriting_of_takeReading :
    ((set.takeReading i).2.takeWriting j).1 = (set.takeWriting j).1 := by
  cases i with
  | zero => rfl
  | succ i =>
    simp only [takeReading, takeWriting, List.getElem?_modify]
    split_ifs <;> cases set.pipes[j]? <;> rfl

theorem takeWriting_of_takeWriting (h : i ≠ j) :
    ((set.takeWriting i).2.takeWriting j).1 = (set.takeWriting j).1 := by
  simp [takeWriting, h]

end PipeShell.Conduits

namespace PipeShell.Execution.Plumbing

variable (plumbing : Plumbing) {i j last : Nat}

theorem takeInput_held (i : Nat) :
    ((plumbing.takeInput i).1.toList ++ (plumbing.takeInput i).2.held).Perm plumbing.held := by
  unfold takeInput held
  split_ifs with h
  · simp only [Option.toList_none, List.append_nil]
    rw [List.append_assoc]
    exact (List.perm_append_comm_assoc _ _ _)
  · simp only [← List.append_assoc]
    exact ((plumbing.pipes.takeReading_held i).append_right _).append_right _

theorem takeOutput_held (i last : Nat) :
    ((plumbing.takeOutput i last).1.toList ++ (plumbing.takeOutput i last).2.held).Perm
      plumbing.held := by
  unfold takeOutput held
  split_ifs with h
  · simp only [Option.toList_none, List.append_nil]
    exact List.perm_append_comm
  · simp only [← List.append_assoc]
    exact ((plumbing.pipes.takeWriting_held i).append_right _).append_right _

theorem takeInput_of_takeInput (h : i ≠ j) :
    ((plumbing.takeInput i).2.takeInput j).1 = (plumbing.takeInput j).1 := by
  by_cases hi : i = 0
  · have hj : j ≠ 0 := by omega
    simp [takeInput, hi, hj]
  · by_cases hj : j = 0
    · simp [takeInput, hi, hj]
    · simpa [takeInput, hi, hj] using plumbing.pipes.takeReading_of_takeReading h

theorem takeInput_of_takeOutput :
    ((plumbing.takeOutput i last).2.takeInput j).1 = (plumbing.takeInput j).1 := by
  by_cases hi : i = last <;> by_cases hj : j = 0 <;>
    simp [takeInput, takeOutput, hi, hj, Conduits.takeReading_of_takeWriting]

theorem takeOutput_of_takeInput :
    ((plumbing.takeInput i).2.takeOutput j last).1 = (plumbing.takeOutput j last).1 := by
  by_cases hi : i = 0 <;> by_cases hj : j = last <;>
    simp [takeInput, takeOutput, hi, hj, Conduits.takeWriting_of_takeReading]

theorem takeOutput_of_takeOutput (h : i ≠ j) :
    ((plumbing.takeOutput i last).2.takeOutput j last).1 = (plumbing.takeOutput j last).1 := by
  by_cases hi : i = last
  · have hj : j ≠ last := by omega
    simp [takeOutput, hi, hj]
  · by_cases hj : j = last
    · simp [takeOutput, hi, hj]
    · simpa [takeOutput, hi, hj] using plumbing.pipes.takeWriting_of_takeWriting h

end PipeShell.Execution.Plumbing
