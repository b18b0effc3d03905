import PipeShell.Proofs.ExecutionCourse

/-!
# The outcome of a run

The answers of the system fix what a run returns and which processes it starts: a refused pipe
stops it before the first start, the first fatal stage stops it there, and otherwise each stage
gets its ending, unless a wait fails. On every path each started process is waited for exactly once.
-/
namespace PipeShell.Execution.Scenario

variable (scenario : Scenario)

theorem neverRan_ofWaitWord (word : Int32) : (Ending.ofWaitWord word).neverRan = false := by
  unfold Ending.ofWaitWord
  split_ifs <;> rfl

theorem neverRan_ending (i : Nat) (stage : Stage) :
    (scenario.ending i stage).neverRan = (scenario.process? i stage).isNone := by
  unfold ending process?
  cases hp : stage.path? with
  | none => rfl
  | some path =>
    cases hs : scenario.spawn i with
    | ok word => exact neverRan_ofWaitWord word
    | error cause =>
      split <;> simp_all [Ending.neverRan]

theorem stageEnds_length (index : Nat) (stages : List Stage) :
    (scenario.stageEnds index stages).length = stages.length := by
  simp [stageEnds]

theorem stageEnds_getElem? {stages : List Stage} {i : Nat} {stage : Stage}
    (h : stages[i]? = some stage) :
    (scenario.stageEnds 0 stages)[i]? =
      some ⟨i + 1, stage.command.name, scenario.ending i stage⟩ := by
  simp [stageEnds, List.getElem?_map, List.getElem?_zipIdx, h]

theorem status_stageEnds {stages : List Stage} {stage : Stage}
    (h : stages.getLast? = some stage) :
    Completion.status ⟨scenario.stageEnds 0 stages⟩ =
      (scenario.ending (stages.length - 1) stage).code := by
  rw [List.getLast?_eq_getElem?] at h
  rw [Completion.status, List.getLast?_eq_getElem?, stageEnds_length,
    scenario.stageEnds_getElem? h]

theorem mem_neverRan_iff {stages : List Stage} {i : Nat} {stage : Stage}
    (h : stages[i]? = some stage) :
    ⟨i + 1, stage.command.name, scenario.ending i stage⟩ ∈
        Completion.neverRan ⟨scenario.stageEnds 0 stages⟩ ↔
      scenario.process? i stage = none := by
  have hm := List.mem_of_getElem? (scenario.stageEnds_getElem? h)
  rw [Completion.neverRan, List.mem_filter, and_iff_right hm, neverRan_ending,
    Option.isNone_iff_eq_none]

theorem exists_append_of_getElem? {stages : List Stage} {k : Nat} {stage : Stage}
    (h : stages[k]? = some stage) :
    ∃ before rest, stages = before ++ stage :: rest ∧ before.length = k := by
  obtain ⟨hlt, rfl⟩ := List.getElem?_eq_some_iff.mp h
  refine ⟨stages.take k, stages.drop (k + 1), ?_, List.length_take_of_le hlt.le⟩
  rw [List.getElem_cons_drop, List.take_append_drop]

/-- What a run returns, and what it starts and waits for on the way. -/
theorem run_outcome (stages : List Stage) :
    let last := stages.length - 1
    let result := run scenario.system stages scenario.outer (ready stages)
    let log := result.2.log
    (∀ pipe < last, ∀ cause, scenario.refusal pipe = some cause →
      (∀ earlier < pipe, scenario.refusal earlier = none) →
      result.1 = .error (.pipe cause) ∧ requests log = []) ∧
    ((∀ pipe < last, scenario.refusal pipe = none) →
      (∀ k stage cause, stages[k]? = some stage → scenario.Fatal k stage cause →
        scenario.Harmless 0 (stages.take k) →
        result.1 = .error (.start stage.command.name (k + 1) cause) ∧
        requests log = scenario.startRequests last 0 (stages.take (k + 1)) ∧
        (children log).map Prod.fst = scenario.processes 0 (stages.take k)) ∧
      (scenario.Harmless 0 stages →
        requests log = scenario.startRequests last 0 stages ∧
        (children log).map Prod.fst = scenario.processes 0 stages ∧
        (∀ k stage cause, stages[k]? = some stage → scenario.Lost k stage cause →
          scenario.Reaped (stages.take k) →
          result.1 = .error (.wait stage.command.name (k + 1) cause)) ∧
        (scenario.Reaped stages → ∃ completion, result.1 = .ok completion ∧
          completion.stages.length = stages.length ∧
          (∀ i stage, stages[i]? = some stage →
            let stageEnd := ⟨i + 1, stage.command.name, scenario.ending i stage⟩
            completion.stages[i]? = some stageEnd ∧
              (stageEnd ∈ completion.neverRan ↔ scenario.process? i stage = none)) ∧
          (∀ stage, stages.getLast? = some stage →
            completion.status = (scenario.ending last stage).code)))) ∧
    waits log = (children log).map Prod.fst ∧ (waits log).Nodup := by
  intro last result log
  refine ⟨?_, fun ho => ⟨?_, fun hs => ?_⟩, ?_⟩
  · intro pipe hp cause hc ho
    obtain ⟨record, he, hcourse⟩ := scenario.run_of_refused hp ho hc
    have hlog : log = record.log := congrArg (fun run => run.2.log) he
    refine ⟨congrArg Prod.fst he, ?_⟩
    rw [hlog, hcourse.requests]
    rfl
  · intro k stage cause hk hf hs
    obtain ⟨before, rest, rfl, rfl⟩ := exists_append_of_getElem? hk
    rw [List.take_left] at hs ⊢
    obtain ⟨record, he, hcourse⟩ := scenario.run_of_fatal ho hs hf
    have hlog : log = record.log := congrArg (fun run => run.2.log) he
    refine ⟨congrArg Prod.fst he, ?_, ?_⟩
    · have htake : (before ++ stage :: rest).take (before.length + 1) = before ++ [stage] := by
        simp [List.take_append]
      rw [hlog, hcourse.requests, htake]
    · rw [hlog, hcourse.started, processes_append_fatal _ hf]
  · obtain ⟨record, he, hcourse⟩ := scenario.run_of_harmless ho hs
    have hlog : log = record.log := congrArg (fun run => run.2.log) he
    have hresult := congrArg Prod.fst he
    refine ⟨by rw [hlog, hcourse.requests], by rw [hlog, hcourse.started], ?_, fun hr => ?_⟩
    · intro k stage cause hk hlost hr
      obtain ⟨before, rest, rfl, rfl⟩ := exists_append_of_getElem? hk
      rw [List.take_left] at hr
      rw [scenario.firstLoss_of_lost hr hlost] at hresult
      exact hresult
    · rw [hr.firstLoss] at hresult
      refine ⟨_, hresult, scenario.stageEnds_length 0 stages, ?_, ?_⟩
      · intro i stage hi
        exact ⟨scenario.stageEnds_getElem? hi, scenario.mem_neverRan_iff hi⟩
      · intro stage hl
        exact scenario.status_stageEnds hl
  · -- no matter which of the paths it was
    obtain ⟨pipes, attempted, -, hcourse⟩ := scenario.course_of_run stages
    rw [hcourse.waits, hcourse.started]
    exact ⟨rfl, scenario.processes_nodup 0 attempted⟩

/-- When the second of two starts fails, the first process is waited for all the same. -/
theorem run_outcome_start_fails :
    let scenario := ofAnswers (fun _ => none) fun i =>
      if i = 0 then .ok 0 else .error (.os .tryAgain)
    let stages : List Stage := [⟨⟨"yes", []⟩, .external "/bin/yes"⟩,
      ⟨⟨"head", ["-1"]⟩, .external "/bin/head"⟩]
    let result := run scenario.system stages scenario.outer (ready stages)
    result.1 = .error (.start "head" 2 (.os .tryAgain)) ∧ waits result.2.log = [0] := by
  intro scenario stages result
  obtain ⟨-, hopen, hwaits, -⟩ := run_outcome scenario stages
  have hs : scenario.Harmless 0 (stages.take 1) := by
    intro j stage hj cause hf
    obtain rfl : j = 0 := by
      have hlt := (List.getElem?_eq_some_iff.mp hj).1
      simpa [stages] using hlt
    simpa [scenario, ofAnswers] using hf.2.1
  obtain ⟨he, -, hc⟩ := (hopen fun _ _ => rfl).1 1 _ (.os .tryAgain) rfl
    ⟨rfl, rfl, by decide⟩ hs
  exact ⟨he, hwaits.trans hc⟩

end PipeShell.Execution.Scenario
