import PipeShell.Proofs.ConduitOwnership
import PipeShell.Proofs.ExecutionScenario

/-!
# Requests for the ends of the pipes

A set of pipes is asked for its ends in any order, for any stage and as often as one likes. Main
statement: the ends that were handed out and the ends that are left are those that were opened, each
of them once, and an end is handed out on the first request for it, whatever else was asked for.
-/
namespace PipeShell.Conduits

variable {σ : Type}

/-- A request for the end that a stage reads from, or for the one that it writes to. -/
inductive Request where
  | reading (stage : Nat)
  | writing (stage : Nat)
  deriving DecidableEq, Repr

def take (set : Conduits) : Request → Option Handle × Conduits
  | .reading stage => set.takeReading stage
  | .writing stage => set.takeWriting stage

def serve (set : Conduits) : List Request → List (Option Handle) × Conduits
  | [] => ([], set)
  | request :: rest =>
    let taken := set.take request
    let later := taken.2.serve rest
    (taken.1 :: later.1, later.2)

def bothEnds (ends : List NewPipe) : List Handle :=
  ends.flatMap fun pipe => [pipe.reading, pipe.writing]

/-- The end that a request is about, if these are the pipes. -/
def endOf? (ends : List NewPipe) : Request → Option Handle
  | .reading 0 => none
  | .reading (before + 1) => ends[before]?.map NewPipe.reading
  | .writing stage => ends[stage]?.map NewPipe.writing

/-- The system opened these pipes one after the other. -/
inductive Opened (system : System σ) : σ → List NewPipe → σ → Prop
  | nil (w : σ) : Opened system w [] w
  | cons {w w' w'' : σ} {pipe : NewPipe} {rest : List NewPipe} :
    system.openPipe .close w = (.ok pipe, w') → Opened system w' rest w'' →
    Opened system w (pipe :: rest) w''

theorem openFrom_opened {system : System σ} {opened : List Conduit} {count : Nat} {w w' : σ}
    {set : Conduits} (h : openFrom system opened count w = (.ok set, w')) :
    ∃ ends, Opened system w ends w' ∧ ends.length = count ∧
      set.pipes = opened ++ ends.map Conduit.ofEnds := by
  induction count generalizing opened w with
  | zero =>
    simp only [openFrom, Prod.mk.injEq, Except.ok.injEq] at h
    obtain ⟨rfl, rfl⟩ := h
    exact ⟨[], .nil w, rfl, (List.append_nil _).symm⟩
  | succ count ih =>
    simp only [openFrom] at h
    split at h
    · next pipe u hopen =>
      obtain ⟨ends, hrest, hlength, hpipes⟩ := ih h
      refine ⟨pipe :: ends, .cons hopen hrest, congrArg (· + 1) hlength, ?_⟩
      rw [hpipes, List.append_assoc, List.map_cons, List.singleton_append]
    · cases h

theorem held_ofEnds (ends : List NewPipe) :
    held ⟨ends.map Conduit.ofEnds⟩ = bothEnds ends := by
  induction ends with
  | nil => rfl
  | cons pipe rest ih =>
    rw [List.map_cons, held_cons, ih]
    rfl

theorem length_bothEnds (ends : List NewPipe) : (bothEnds ends).length = 2 * ends.length := by
  simp [bothEnds, Nat.mul_comm]

variable (set : Conduits)

theorem take_held (request : Request) :
    ((set.take request).1.toList ++ (set.take request).2.held).Perm set.held := by
  cases request with
  | reading stage => exact set.takeReading_held stage
  | writing stage => exact set.takeWriting_held stage

/-- A request leaves the answers to all others as they were. -/
theorem take_of_take_ne {first second : Request} (h : first ≠ second) :
    ((set.take first).2.take second).1 = (set.take second).1 := by
  cases first with
  | reading i =>
    cases second with
    | reading j => exact set.takeReading_of_takeReading fun hij => h (congrArg _ hij)
    | writing j => exact set.takeWriting_of_takeReading
  | writing i =>
    cases second with
    | reading j => exact set.takeReading_of_takeWriting
    | writing j => exact set.takeWriting_of_takeWriting fun hij => h (congrArg _ hij)

/-- The same request gets nothing the second time. -/
theorem take_of_take_self (request : Request) :
    ((set.take request).2.take request).1 = none := by
  cases request with
  | reading stage =>
    cases stage with
    | zero => rfl
    | succ before => cases h : set.pipes[before]? <;> simp [take, takeReading, h]
  | writing stage => cases h : set.pipes[stage]? <;> simp [take, takeWriting, h]

theorem take_ofEnds (ends : List NewPipe) (request : Request) :
    (take ⟨ends.map Conduit.ofEnds⟩ request).1 = endOf? ends request := by
  cases request with
  | reading stage =>
    cases stage with
    | zero => rfl
    | succ before => cases h : ends[before]? <;> simp [take, takeReading, endOf?, Conduit.ofEnds, h]
  | writing stage => cases h : ends[stage]? <;> simp [take, takeWriting, endOf?, Conduit.ofEnds, h]

/-- Serving requests moves ends out of the set and loses none. -/
theorem serve_held (requests : List Request) :
    ((set.serve requests).1.reduceOption ++ (set.serve requests).2.held).Perm set.held := by
  induction requests generalizing set with
  | nil => exact List.Perm.refl _
  | cons request rest ih =>
    have hfirst := set.take_held request
    have hrest := ih (set.take request).2
    simp only [serve]
    cases ht : (set.take request).1 with
    | none =>
      rw [ht] at hfirst
      rw [List.reduceOption_cons_of_none]
      exact hrest.trans hfirst
    | some handle =>
      rw [ht] at hfirst
      rw [List.reduceOption_cons_of_some, List.cons_append]
      exact (hrest.cons handle).trans hfirst

/-- A request after others is answered as if it were the first, unless it was among them. -/
theorem take_of_serve (before : List Request) (request : Request) :
    ((set.serve before).2.take request).1 =
      if request ∈ before then none else (set.take request).1 := by
  induction before generalizing set with
  | nil => rfl
  | cons first rest ih =>
    simp only [serve]
    rw [ih (set.take first).2]
    by_cases hf : first = request
    · subst hf
      rw [set.take_of_take_self first, ite_self, if_pos List.mem_cons_self]
    · have hmem : request ∈ first :: rest ↔ request ∈ rest := by
        rw [List.mem_cons, or_iff_right (Ne.symm hf)]
      rw [set.take_of_take_ne hf]
      simp only [hmem]

/-- Whatever a set was asked for: each end that was opened is either handed out or left, an end is
handed out on the first request for it and never again, and no request changes what another gets. -/
theorem serve_exact {system : System σ} {stages : Nat} {w after : σ} {set : Conduits}
    (h : openFor system stages w = (.ok set, after)) :
    ∃ ends, Opened system w ends after ∧ ends.length = stages - 1 ∧
      (bothEnds ends).length = 2 * (stages - 1) ∧
      ∀ before : List Request,
        let served := set.serve before
        (served.1.reduceOption ++ served.2.held).Perm (bothEnds ends) ∧
        ((bothEnds ends).Nodup → (served.1.reduceOption ++ served.2.held).Nodup) ∧
        (∀ i, 1 ≤ i → i ≤ stages - 1 → .reading i ∉ before →
          ∃ pipe, ends[i - 1]? = some pipe ∧ (served.2.takeReading i).1 = some pipe.reading) ∧
        (∀ i, ¬ (1 ≤ i ∧ i ≤ stages - 1 ∧ .reading i ∉ before) →
          (served.2.takeReading i).1 = none) ∧
        (∀ j, j + 2 ≤ stages → .writing j ∉ before →
          ∃ pipe, ends[j]? = some pipe ∧ (served.2.takeWriting j).1 = some pipe.writing) ∧
        (∀ j, ¬ (j + 2 ≤ stages ∧ .writing j ∉ before) → (served.2.takeWriting j).1 = none) ∧
        (∀ first second, first ≠ second →
          ((served.2.take first).2.take second).1 = (served.2.take second).1) := by
  obtain ⟨ends, hopened, hlength, hpipes⟩ := openFrom_opened h
  obtain rfl : set = ⟨ends.map Conduit.ofEnds⟩ := congrArg Conduits.mk hpipes
  refine ⟨ends, hopened, hlength, (length_bothEnds ends).trans (congrArg (2 * ·) hlength), ?_⟩
  intro before served
  have hheld : (served.1.reduceOption ++ served.2.held).Perm (bothEnds ends) := by
    rw [← held_ofEnds]
    exact serve_held _ before
  have hanswer (request : Request) : (served.2.take request).1 =
      if request ∈ before then none else endOf? ends request := by
    rw [← take_ofEnds]
    exact take_of_serve _ before request
  refine ⟨hheld, hheld.nodup_iff.mpr, ?_, ?_, ?_, ?_, ?_⟩
  · intro i hlow hhigh hfirst
    obtain ⟨k, rfl⟩ : ∃ k, i = k + 1 := ⟨i - 1, by omega⟩
    have hpipe : ends[k]? = some ends[k] := List.getElem?_eq_getElem (by omega)
    refine ⟨ends[k], hpipe, (hanswer (.reading (k + 1))).trans ?_⟩
    rw [if_neg hfirst, endOf?, hpipe, Option.map_some]
  · intro i hother
    refine (hanswer (.reading i)).trans (ite_eq_left_iff.mpr fun hfirst => ?_)
    cases i with
    | zero => rfl
    | succ k =>
      have hrange : ends.length ≤ k := by
        by_contra hk
        exact hother ⟨by omega, by omega, hfirst⟩
      rw [endOf?, List.getElem?_eq_none hrange, Option.map_none]
  · intro j hhigh hfirst
    have hpipe : ends[j]? = some ends[j] := List.getElem?_eq_getElem (by omega)
    refine ⟨ends[j], hpipe, (hanswer (.writing j)).trans ?_⟩
    rw [if_neg hfirst, endOf?, hpipe, Option.map_some]
  · intro j hother
    refine (hanswer (.writing j)).trans (ite_eq_left_iff.mpr fun hfirst => ?_)
    have hrange : ends.length ≤ j := by
      by_contra hj
      exact hother ⟨by omega, hfirst⟩
    rw [endOf?, List.getElem?_eq_none hrange, Option.map_none]
  · intro first second hne
    exact served.2.take_of_take_ne hne

/-- Of three stages, the second still finds its input after its output was asked for twice, and a
third request for that output gets nothing. -/
theorem serve_exact_three :
    let scenario := Execution.Scenario.ofAnswers (fun _ => none) fun _ => .ok 0
    ∃ set after, openFor scenario.system 3 (Execution.Scenario.ready []) = (.ok set, after) ∧
      let served := set.serve [.writing 1, .reading 0, .writing 1, .reading 3]
      (∃ handle, (served.2.takeReading 1).1 = some handle) ∧
      (served.2.takeWriting 1).1 = none ∧ (served.2.takeReading 3).1 = none := by
  intro scenario
  refine ⟨_, _, rfl, ?_⟩
  obtain ⟨ends, -, -, -, hserved⟩ :=
    serve_exact (rfl : openFor scenario.system 3 (Execution.Scenario.ready []) = (.ok _, _))
  obtain ⟨-, -, hread, hnoread, -, hnowrite, -⟩ :=
    hserved [.writing 1, .reading 0, .writing 1, .reading 3]
  obtain ⟨pipe, -, hpipe⟩ := hread 1 (by decide) (by decide) (by decide)
  exact ⟨⟨pipe.reading, hpipe⟩, hnowrite 1 (by decide), hnoread 3 (by decide)⟩

end PipeShell.Conduits
