import PipeShell.Proofs.ExecutionOutcome
import PipeShell.Proofs.HostTrace

/-!
# What a run of processes asks for

Of all that a host is asked for, only the outer streams and the starts of programs bring processes
about. Main statement: running stages opens the outer streams once, before any start, and when it
comes to an end each stage has the ending that the answers to its own starts lead to.
-/
namespace PipeShell

variable {σ : Type}

abbrev Start := StartRequest × Except Fault ProcessId

def Start.act (start : Start) : Act := .ran (.started start.1 start.2)

def Start.succeeded (start : Start) : Bool := start.2.isOk

def Act.engages : Act → Bool
  | openedStreams _ | ran (.started _ _) => true
  | said _ | moved _ _ | ran (.opened _ _) | ran (.closed _) | ran (.waited _) => false

def engaged (log : List Act) : List Act := log.filter Act.engages

theorem engaged_append (first second : List Act) :
    engaged (first ++ second) = engaged first ++ engaged second :=
  List.filter_append first second

def StartRequest.IsFor (request : StartRequest) (stage : Stage) : Prop :=
  stage.path? = some request.path ∧ request.name = stage.command.name ∧
    request.args = stage.command.args

/-- How a stage can come to its ending after the starts that were tried for it. -/
inductive Stage.Came (stage : Stage) : List Start → Ending → Prop
  | absent : stage.path? = none → Came stage [] .notFound
  | refused {request : StartRequest} {cause : Fault} {ending : Ending} :
    request.IsFor stage → Execution.endingOfFault cause = some ending →
    Came stage [(request, .error cause)] ending
  | finished {request : StartRequest} {process : ProcessId} (word : Int32) :
    request.IsFor stage → Came stage [(request, .ok process)] (.ofWaitWord word)

/-- How stages can come to their endings after these starts; `position` is that of the first. -/
inductive StagesCame : (position : Nat) → List Stage → List Start → List StageEnd → Prop
  | nil {position : Nat} : StagesCame position [] [] []
  | cons {position : Nat} {stage : Stage} {ending : Ending} {rest : List Stage}
    {first later : List Start} {ends : List StageEnd} :
    stage.Came first ending → StagesCame (position + 1) rest later ends →
    StagesCame position (stage :: rest) (first ++ later)
      (⟨position, stage.command.name, ending⟩ :: ends)

theorem Stage.Came.count {stage : Stage} {starts : List Start} {ending : Ending}
    (h : stage.Came starts ending) :
    ending.neverRan.toNat + starts.countP Start.succeeded = 1 := by
  cases h with
  | absent => rfl
  | refused _ hending =>
    rcases Execution.endingOfFault_eq_some hending with rfl | rfl <;> rfl
  | finished word =>
    rw [Execution.Scenario.neverRan_ofWaitWord]
    rfl

theorem StagesCame.names {position : Nat} {stages : List Stage} {starts : List Start}
    {ends : List StageEnd} (h : StagesCame position stages starts ends) :
    ends.map (fun stage => stage.name) = stages.map fun stage => stage.command.name := by
  induction h with
  | nil => rfl
  | cons _ _ ih => rw [List.map_cons, List.map_cons, ih]

/-- Each stage never ran, or one start for it succeeded, and there are no other starts. -/
theorem StagesCame.count {position : Nat} {stages : List Stage} {starts : List Start}
    {ends : List StageEnd} (h : StagesCame position stages starts ends) :
    ends.countP (fun stage => stage.ending.neverRan) + starts.countP Start.succeeded =
      stages.length := by
  induction h with
  | nil => rfl
  | @cons position stage ending rest first later ends hfirst _ ih =>
    have hone := hfirst.count
    rw [List.countP_cons, List.countP_append, List.length_cons]
    cases hn : ending.neverRan with
    | true =>
      rw [hn] at hone
      simp only [Bool.toNat_true, if_true] at hone ⊢
      omega
    | false =>
      rw [hn] at hone
      simp only [Bool.toNat_false, Bool.false_eq_true, if_false] at hone ⊢
      omega

section Run

open Execution

variable (host : Host σ)

theorem engaged_close (handle : Handle) (t : Traced σ) :
    engaged (host.traced.close handle t).log = engaged t.log := by
  change engaged (t.log ++ [.ran (.closed handle)]) = _
  rw [engaged_append]
  exact List.append_nil _

theorem engaged_wait (process : ProcessId) (t : Traced σ) :
    engaged (host.traced.wait process t).2.log = engaged t.log := by
  change engaged (t.log ++ [.ran (.waited process)]) = _
  rw [engaged_append]
  exact List.append_nil _

theorem engaged_openPipe (onExec : OnExec) (t : Traced σ) :
    engaged (host.traced.openPipe onExec t).2.log = engaged t.log := by
  change engaged (t.log ++ [.ran (.opened onExec _)]) = _
  rw [engaged_append]
  exact List.append_nil _

theorem engaged_start (request : StartRequest) (t : Traced σ) :
    engaged (host.traced.start request t).2.log =
      engaged t.log ++ [Start.act (request, (host.traced.start request t).1)] := by
  change engaged (t.log ++ [.ran (.started request _)]) = _
  rw [engaged_append]
  rfl

theorem engaged_closeAll (handles : List Handle) (t : Traced σ) :
    engaged (Conduits.closeAll host.traced.toSystem handles t).log = engaged t.log := by
  induction handles generalizing t with
  | nil => rfl
  | cons handle rest ih => exact (ih _).trans (engaged_close host handle t)

theorem engaged_openFrom (opened : List Conduit) (count : Nat) (t : Traced σ) :
    engaged (Conduits.openFrom host.traced.toSystem opened count t).2.log = engaged t.log := by
  induction count generalizing opened t with
  | zero => rfl
  | succ count ih =>
    have ho := engaged_openPipe host .close t
    rw [Conduits.openFrom]
    split
    · next ends u he =>
      rw [he] at ho
      exact (ih _ u).trans ho
    · next cause u he =>
      rw [he] at ho
      exact (engaged_closeAll host _ u).trans ho

theorem engaged_waitFrom (position : Nat) (launched : List (String × Attempt)) (t : Traced σ) :
    engaged (waitFrom host.traced.toSystem position t launched).world.log = engaged t.log := by
  induction launched generalizing position t with
  | nil => rfl
  | cons entry rest ih =>
    obtain ⟨name, attempt⟩ := entry
    cases attempt with
    | ended ending => exact ih (position + 1) t
    | running process =>
      have hwait := engaged_wait host process t
      rw [waitFrom]
      split <;> next he =>
        rw [he] at hwait
        exact (ih (position + 1) _).trans hwait

/-- Where a stage got to after these starts: it has its ending, or its process can come to any. -/
def Stage.Launched (stage : Stage) (starts : List Start) : Attempt → Prop
  | .ended ending => stage.Came starts ending
  | .running _ => ∀ word, stage.Came starts (.ofWaitWord word)

theorem startStage_engaged (stage : Stage) (input output : Option Handle) (t : Traced σ) :
    ∃ starts : List Start,
      engaged (startStage host.traced.toSystem stage input output t).2.log =
        engaged t.log ++ starts.map Start.act ∧
      ∀ attempt, (startStage host.traced.toSystem stage input output t).1 = .ok attempt →
        stage.Launched starts attempt := by
  unfold startStage
  -- whatever comes of the start, closing the two streams after it engages nothing
  simp only [engaged_closeAll]
  cases ht : stage.target with
  | builtin kind =>
    have hp : stage.path? = none := by rw [Stage.path?, ht]
    refine ⟨[], (List.append_nil _).symm, fun attempt ha => ?_⟩
    obtain rfl := Except.ok.inj ha
    exact .absent hp
  | unknown =>
    have hp : stage.path? = none := by rw [Stage.path?, ht]
    refine ⟨[], (List.append_nil _).symm, fun attempt ha => ?_⟩
    obtain rfl := Except.ok.inj ha
    exact .absent hp
  | external path =>
    let request : StartRequest := ⟨path, stage.command.name, stage.command.args, input, output⟩
    have hfor : request.IsFor stage := ⟨by rw [Stage.path?, ht], rfl, rfl⟩
    have hstart := engaged_start host request t
    refine ⟨[(request, (host.traced.start request t).1)], ?_⟩
    simp only
    generalize host.traced.start request t = answered at hstart ⊢
    obtain ⟨answer, u⟩ := answered
    cases answer with
    | ok process =>
      refine ⟨hstart, fun attempt ha => ?_⟩
      obtain rfl := Except.ok.inj ha
      exact fun word => .finished word hfor
    | error cause =>
      cases he : endingOfFault cause with
      | some ending =>
        simp only [he]
        refine ⟨hstart, fun attempt ha => ?_⟩
        obtain rfl := Except.ok.inj ha
        exact .refused hfor he
      | none =>
        simp only [he]
        exact ⟨hstart, fun attempt ha => by cases ha⟩

theorem startFrom_engaged (last index : Nat) (plumbing : Plumbing) (stages : List Stage)
    (t : Traced σ) :
    let started := startFrom host.traced.toSystem last index plumbing t stages
    ∃ starts : List Start,
      engaged started.world.log = engaged t.log ++ starts.map Start.act ∧
      (started.failure = none → ∀ (position : Nat) (u : Traced σ),
        let waited := waitFrom host.traced.toSystem position u started.launched
        waited.failure = none → StagesCame position stages starts waited.ended) := by
  induction stages generalizing index plumbing t with
  | nil => exact ⟨[], (List.append_nil _).symm, fun _ _ _ _ => .nil⟩
  | cons stage rest ih =>
    obtain ⟨first, hlog, hlaunched⟩ := startStage_engaged host stage
      (plumbing.takeInput index).1 ((plumbing.takeInput index).2.takeOutput index last).1 t
    simp only [startFrom]
    generalize startStage host.traced.toSystem stage _ _ t = answered at hlog hlaunched ⊢
    obtain ⟨answer, u⟩ := answered
    cases answer with
    | error cause => exact ⟨first, hlog, fun hf => by cases hf⟩
    | ok attempt =>
      obtain ⟨later, hrest, hcame⟩ :=
        ih (index + 1) ((plumbing.takeInput index).2.takeOutput index last).2 u
      refine ⟨first ++ later, ?_, fun hf position v hw => ?_⟩
      · rw [hrest, hlog, List.map_append, List.append_assoc]
      · have hfirst := hlaunched attempt rfl
        cases attempt with
        | ended ending => exact .cons hfirst (hcame hf (position + 1) v hw)
        | running process =>
          simp only [waitFrom] at hw ⊢
          split at hw
          · exact .cons (hfirst _) (hcame hf (position + 1) _ hw)
          · cases hw

theorem run_engaged (stages : List Stage) (outer : OuterStreams) (t : Traced σ) :
    ∃ starts : List Start,
      engaged (run host.traced.toSystem stages outer t).2.log =
        engaged t.log ++ starts.map Start.act ∧
      ∀ completion, (run host.traced.toSystem stages outer t).1 = .ok completion →
        StagesCame 1 stages starts completion.stages := by
  have hopen := engaged_openFrom host [] (stages.length - 1) t
  unfold run Conduits.openFor
  generalize Conduits.openFrom host.traced.toSystem [] (stages.length - 1) t = opened at hopen ⊢
  obtain ⟨answer, u⟩ := opened
  cases answer with
  | error cause =>
    -- a pipe was refused, so no start was tried
    refine ⟨[], ?_, fun completion hc => by cases hc⟩
    exact ((engaged_closeAll host _ u).trans hopen).trans (List.append_nil _).symm
  | ok pipes =>
    obtain ⟨starts, hlog, hcame⟩ := startFrom_engaged host (stages.length - 1) 0
      ⟨some outer.input, some outer.output, pipes⟩ stages u
    simp only
    generalize startFrom host.traced.toSystem _ _ _ u stages = started at hlog hcame ⊢
    let closed := Conduits.closeAll host.traced.toSystem started.plumbing.held started.world
    have hwaited : engaged (waitFrom host.traced.toSystem 1 closed started.launched).world.log =
        engaged t.log ++ starts.map Start.act := by
      rw [engaged_waitFrom, engaged_closeAll, hlog, hopen]
    refine ⟨starts, ?_, fun completion hc => ?_⟩
    · split <;> exact hwaited
    · split at hc
      · cases hc
      · next hf =>
        obtain ⟨hstart, hwait⟩ := Option.or_eq_none_iff.mp hf
        obtain rfl := Except.ok.inj hc
        exact hcame hstart 1 closed hwait

/-- Whatever the system answers, running stages opens the outer streams once, and then only tries
starts for its stages. -/
theorem runStages_engaged (stages : List Stage) (t : Traced σ) :
    ∃ (answer : Except Fault OuterStreams) (starts : List Start),
      engaged (Shell.runStages host.traced.toSystem stages t).2.log =
        engaged t.log ++ .openedStreams answer :: starts.map Start.act ∧
      (∀ cause, answer = .error cause ↔
        (Shell.runStages host.traced.toSystem stages t).1 = .error (.streams cause)) ∧
      (∀ cause, answer = .error cause → starts = []) ∧
      ∀ completion, (Shell.runStages host.traced.toSystem stages t).1 = .ok completion →
        StagesCame 1 stages starts completion.stages := by
  have hopened : engaged (host.traced.openStreams t).2.log =
      engaged t.log ++ [.openedStreams (host.traced.openStreams t).1] := by
    change engaged (t.log ++ [.openedStreams _]) = _
    rw [engaged_append]
    rfl
  unfold Shell.runStages
  generalize host.traced.openStreams t = opened at hopened ⊢
  obtain ⟨answer, u⟩ := opened
  cases answer with
  | error cause =>
    refine ⟨.error cause, [], hopened, fun found => ?_, fun _ _ => rfl, fun completion hc => ?_⟩
    · simp
    · cases hc
  | ok outer =>
    obtain ⟨starts, hlog, hcame⟩ := run_engaged host stages outer u
    simp only
    generalize run host.traced.toSystem stages outer u = ran at hlog hcame ⊢
    obtain ⟨result, v⟩ := ran
    have hall : engaged v.log =
        engaged t.log ++ .openedStreams (.ok outer) :: starts.map Start.act := by
      rw [hlog, hopened, List.append_assoc]
      rfl
    refine ⟨.ok outer, starts, ?_, fun cause => ?_, fun cause hc => ?_, fun completion hc => ?_⟩
    · cases result with
      | error cause => exact hall
      | ok completion => exact hall
    · cases result with
      | error found => simp
      | ok completion => simp
    · cases hc
    · cases result with
      | error cause => cases hc
      | ok found =>
        obtain rfl := Except.ok.inj hc
        exact hcame found rfl

end Run

end PipeShell
