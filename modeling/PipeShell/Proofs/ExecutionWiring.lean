import PipeShell.Proofs.ExecutionCourse

/-!
# Who holds which end

An end is held by the shell from when it gets it until it closes it. A child holds an end if the
shell held it when it started the child, and the end was installed as a stream of the child or was
opened to go along into programs. When the first process is waited for, the shell holds nothing, so
each end of a pipe is open in the one stage it is meant for, or nowhere if that stage has no process.
-/
namespace PipeShell

namespace Execution

def untilWait (log : List Event) : List Event := log.takeWhile fun event => event.waited?.isNone

inductive Owner where
  | shell
  | child (process : ProcessId)

/-- Who has a handle open at the end of a log. A child gets only what the shell owned when the child
was started, whatever the request for it names. -/
def Holds (outer : OuterStreams) (log : List Event) (handle : Handle) : Owner → Prop
  | .shell => handle ∈ owned outer log
  | .child process => ∃ before request,
    before ++ [Event.started request (.ok process)] <+: log ∧ handle ∈ owned outer before ∧
      (handle ∈ request.handles ∨ handle ∈ kept outer before)

theorem mem_children_of_prefix {before log : List Event} {request : StartRequest}
    {process : ProcessId} (h : before ++ [.started request (.ok process)] <+: log) :
    (process, request) ∈ children log :=
  List.mem_filterMap.mpr ⟨_, h.subset (List.mem_append_right _ List.mem_cons_self), rfl⟩

theorem prefix_of_mem_children {log : List Event} {request : StartRequest} {process : ProcessId}
    (h : (process, request) ∈ children log) :
    ∃ before, before ++ [.started request (.ok process)] <+: log := by
  obtain ⟨event, hmem, hchild⟩ := List.mem_filterMap.mp h
  obtain ⟨before, after, rfl⟩ := List.append_of_mem hmem
  refine ⟨before, after, ?_⟩
  rw [List.append_assoc, List.singleton_append]
  cases event with
  | started found answer =>
    cases answer with
    | ok id =>
      obtain ⟨rfl, rfl⟩ : id = process ∧ found = request := by simpa [Event.child?] using hchild
      rfl
    | error cause => cases hchild
  | opened onExec answer => cases hchild
  | closed handle => cases hchild
  | waited id => cases hchild

/-- When no pipe goes along into programs, a child gets nothing but its streams, and at most the
outer ones. -/
theorem mem_kept {outer : OuterStreams} {log : List Event} {handle : Handle}
    (hn : ∀ ends, Event.opened .keep (.ok ends) ∉ log) (h : handle ∈ kept outer log) :
    handle = outer.input ∨ handle = outer.output := by
  rcases List.mem_cons.mp h with hi | h
  · exact .inl hi
  rcases List.mem_cons.mp h with ho | h
  · exact .inr ho
  obtain ⟨event, hmem, hkept⟩ := List.mem_flatMap.mp h
  unfold Event.kept at hkept
  split at hkept
  · exact absurd hmem (hn _)
  · cases hkept

section Ends

variable {i j last pipe : Nat}

theorem inputEnd_injective : Function.Injective inputEnd := by
  intro i j h
  cases i <;> cases j <;> simp_all [inputEnd]

theorem outputEnd_injective (last : Nat) : Function.Injective (outputEnd last) := by
  intro i j h
  unfold outputEnd at h
  split_ifs at h with hi hj hj
  · rw [hi, hj]
  · simpa using h

theorem inputEnd_ne_outputEnd : inputEnd i ≠ outputEnd last j := by
  unfold outputEnd
  split_ifs <;> cases i <;> simp [inputEnd]

theorem writing_meant_iff (h : pipe < last) :
    (.writing pipe = inputEnd i ∨ .writing pipe = outputEnd last i) ↔ i = pipe := by
  unfold outputEnd
  split_ifs with hi <;> cases i <;> simp [inputEnd] <;> omega

theorem reading_meant_iff :
    (.reading pipe = inputEnd i ∨ .reading pipe = outputEnd last i) ↔ i = pipe + 1 := by
  unfold outputEnd
  split_ifs <;> cases i <;> simp [inputEnd] <;> omega

end Ends

namespace Scenario

variable (scenario : Scenario)

theorem handles_nodup (pipes : Nat) : (scenario.handles pipes).Nodup := by
  have he : scenario.handles pipes = (End.input :: .output :: (List.range pipes).flatMap
      fun pipe => [.reading pipe, .writing pipe]).map scenario.handle := by
    simp [handles, pipeHandles, List.map_flatMap]
  rw [he]
  refine List.Nodup.map scenario.handle_injective ?_
  simp only [List.nodup_cons, List.mem_cons, List.mem_flatMap, List.nodup_flatMap]
  refine ⟨by simp, by simp, by simp, ?_⟩
  refine List.nodup_range.imp fun {i j} hij => ?_
  simp [Function.onFun, List.disjoint_left, hij]

theorem stageHandles_nodup (last : Nat) (stages : List Nat) (h : stages.Nodup) :
    (stages.flatMap (scenario.stageHandles last)).Nodup := by
  rw [List.nodup_flatMap]
  have hne (i j : Nat) : scenario.handle (inputEnd i) ≠ scenario.handle (outputEnd last j) :=
    fun he => inputEnd_ne_outputEnd (scenario.handle_injective he)
  refine ⟨fun i _ => by simp [stageHandles, hne], h.imp fun {i j} hij => ?_⟩
  have hi : scenario.handle (inputEnd j) ≠ scenario.handle (inputEnd i) :=
    fun he => hij (inputEnd_injective (scenario.handle_injective he)).symm
  have ho : scenario.handle (outputEnd last j) ≠ scenario.handle (outputEnd last i) :=
    fun he => hij (outputEnd_injective last (scenario.handle_injective he)).symm
  simp [Function.onFun, stageHandles, hi, ho, hne, (hne _ _).symm]

theorem startRequests_sublist (last index : Nat) (stages : List Stage) :
    ((scenario.startRequests last index stages).flatMap StartRequest.handles).Sublist
      ((List.range' index stages.length).flatMap (scenario.stageHandles last)) := by
  induction stages generalizing index with
  | nil => exact List.Sublist.refl _
  | cons stage stages ih =>
    rw [startRequests_cons, List.length_cons, List.range'_succ, List.flatMap_cons,
      List.flatMap_append]
    refine List.Sublist.append ?_ (ih (index + 1))
    cases h : scenario.request? last index stage with
    | none => simp
    | some request => simp [scenario.request?_handles h]

theorem startRequests_nodup (last : Nat) (stages : List Stage) :
    ((scenario.startRequests last 0 stages).flatMap StartRequest.handles).Nodup :=
  (scenario.stageHandles_nodup last _ (List.nodup_range' _)).sublist
    (scenario.startRequests_sublist last 0 stages)

theorem child?_eq_some_iff {last i process : Nat} {stage : Stage} {request : StartRequest} :
    scenario.child? last i stage = some (process, request) ↔
      scenario.request? last i stage = some request ∧ scenario.process? i stage = some process := by
  unfold child? request? process? startAnswer
  cases stage.path? <;> cases scenario.spawn i <;>
    simp [Event.child?, Except.map, and_comm]

variable {scenario} {last pipes : Nat} {attempted : List Stage} {log : List Event}

theorem owned_eq_zero (ha : log.flatMap Event.acquired = scenario.pipeHandles pipes)
    (hc : (closes log).Perm (scenario.handles pipes)) : owned scenario.outer log = 0 := by
  have he : acquired scenario.outer log = scenario.handles pipes := by
    rw [acquired, ha]
    rfl
  rw [owned, he, ← Multiset.coe_eq_coe.mpr hc, tsub_self]

/-- The part of a course before the first wait is its settled part. -/
theorem Course.untilWait (h : scenario.Course last pipes attempted log) :
    scenario.Settled last pipes attempted (untilWait log) := by
  obtain ⟨early, hs, rfl⟩ := h
  have hearly : ∀ event ∈ early, event.waited?.isNone = true := fun event he =>
    Option.isNone_iff_eq_none.mpr (List.filterMap_eq_nil_iff.mp hs.waits event he)
  have hwaits : ((scenario.processes 0 attempted).map Event.waited).takeWhile
      (fun event => event.waited?.isNone) = [] := by
    cases scenario.processes 0 attempted <;> simp [Event.waited?]
  rwa [Execution.untilWait, List.takeWhile_append_of_pos hearly, hwaits, List.append_nil]

theorem Course.acquired (h : scenario.Course last pipes attempted log) :
    log.flatMap Event.acquired = scenario.pipeHandles pipes := by
  obtain ⟨early, hs, rfl⟩ := h
  rw [List.flatMap_append, hs.acquired]
  simp [List.flatMap_map, Event.acquired]

theorem Course.closes (h : scenario.Course last pipes attempted log) :
    (closes log).Perm (scenario.handles pipes) := by
  obtain ⟨early, hs, rfl⟩ := h
  rw [Execution.closes, filterMap_waited Event.closed? (fun _ => rfl)]
  exact hs.closes

theorem Course.starts (h : scenario.Course last pipes attempted log) :
    StartsOwned scenario.outer log := by
  obtain ⟨early, hs, rfl⟩ := h
  exact hs.starts.append (by simp [Event.request?])

theorem mem_children_iff {process : ProcessId} {request : StartRequest}
    (h : children log = attempted.zipIdx.filterMap fun (stage, i) => scenario.child? last i stage) :
    (process, request) ∈ children log ↔ ∃ stage, attempted[process]? = some stage ∧
      scenario.request? last process stage = some request ∧
      scenario.process? process stage = some process := by
  rw [h, List.mem_filterMap]
  constructor
  · rintro ⟨⟨stage, i⟩, hm, hc⟩
    obtain ⟨hr, hp⟩ := scenario.child?_eq_some_iff.mp hc
    obtain rfl : i = process := by
      unfold process? at hp
      split at hp <;> simp_all
    exact ⟨stage, List.mem_zipIdx_iff_getElem?.mp hm, hr, hp⟩
  · rintro ⟨stage, hs, hr, hp⟩
    exact ⟨(stage, process), List.mem_zipIdx_iff_getElem?.mpr hs,
      scenario.child?_eq_some_iff.mpr ⟨hr, hp⟩⟩

/-- Once everything is closed, an end of a pipe is open in the processes it is meant for only. -/
theorem Settled.holds_iff (h : scenario.Settled last pipes attempted log) {e : End}
    (hi : e ≠ .input) (ho : e ≠ .output) (owner : Owner) :
    Holds scenario.outer log (scenario.handle e) owner ↔
      ∃ process, owner = .child process ∧ process ∈ (Execution.children log).map Prod.fst ∧
        (e = inputEnd process ∨ e = outputEnd last process) := by
  cases owner with
  | shell => simp [Holds, owned_eq_zero h.acquired h.closes]
  | child process =>
    have hmem (request : StartRequest) (hc : (process, request) ∈ Execution.children log) :
        scenario.handle e ∈ request.handles ↔
          e = inputEnd process ∨ e = outputEnd last process := by
      obtain ⟨stage, -, hr, -⟩ := (mem_children_iff h.children).mp hc
      simp [scenario.request?_handles hr, stageHandles, scenario.handle_injective.eq_iff]
    constructor
    · rintro ⟨before, request, hp, -, hinstalled | hkept⟩
      · have hc := mem_children_of_prefix hp
        exact ⟨process, rfl, List.mem_map.mpr ⟨_, hc, rfl⟩, (hmem request hc).mp hinstalled⟩
      · have hearly : ∀ ends, Event.opened .keep (.ok ends) ∉ before := fun ends hm =>
          h.unkept ends (hp.subset (List.mem_append_left _ hm))
        rcases mem_kept hearly hkept with he | he
        · exact absurd (scenario.handle_injective he) hi
        · exact absurd (scenario.handle_injective he) ho
    · rintro ⟨_, hp, hs, he⟩
      cases hp
      obtain ⟨⟨_, request⟩, hc, rfl⟩ := List.mem_map.mp hs
      obtain ⟨before, hp⟩ := prefix_of_mem_children hc
      have hinstalled := (hmem request hc).mpr he
      exact ⟨before, request, hp,
        Multiset.mem_of_le (h.starts before request _ hp) hinstalled, .inl hinstalled⟩

theorem Settled.holds_iff_of_meant (h : scenario.Settled last pipes attempted log) {e : End}
    (hin : e ≠ .input) (hout : e ≠ .output) {i : Nat}
    (hi : ∀ {process}, (e = inputEnd process ∨ e = outputEnd last process) ↔ process = i)
    (owner : Owner) :
    Holds scenario.outer log (scenario.handle e) owner ↔
      owner = .child i ∧ i ∈ (Execution.children log).map Prod.fst := by
  rw [h.holds_iff hin hout]
  constructor
  · rintro ⟨process, rfl, hm, he⟩
    obtain rfl := hi.mp he
    exact ⟨rfl, hm⟩
  · rintro ⟨rfl, hm⟩
    exact ⟨i, rfl, hm, hi.mpr rfl⟩

variable (scenario)

/-- Every end goes to the stage it is meant for: the shell has it open when it starts the program
there, no other child gets it, and the shell closes all that it got before it waits for anyone. -/
theorem run_wiring (stages : List Stage) :
    let last := stages.length - 1
    let log := (run scenario.system stages scenario.outer (ready stages)).2.log
    let started := (children log).map Prod.fst
    (∀ i request, (i, request) ∈ children log → ∃ stage path, stages[i]? = some stage ∧
      stage.target = .external path ∧
      request = ⟨path, stage.command.name, stage.command.args,
        some (scenario.handle (inputEnd i)), some (scenario.handle (outputEnd last i))⟩) ∧
    (∀ before request answer, before ++ [Event.started request answer] <+: log →
      (request.handles : Multiset Handle) ≤ owned scenario.outer before) ∧
    ((requests log).flatMap StartRequest.handles).Nodup ∧
    owned scenario.outer (untilWait log) = 0 ∧
    (∀ pipe < last, ∀ owner,
      (Holds scenario.outer (untilWait log) (scenario.handle (.writing pipe)) owner ↔
        owner = .child pipe ∧ pipe ∈ started) ∧
      (Holds scenario.outer (untilWait log) (scenario.handle (.reading pipe)) owner ↔
        owner = .child (pipe + 1) ∧ pipe + 1 ∈ started)) ∧
    owned scenario.outer log = 0 ∧
    (closes log).Perm (acquired scenario.outer log) ∧ (closes log).Nodup := by
  intro last log started
  obtain ⟨pipes, attempted, hprefix, hc⟩ := scenario.course_of_run stages
  have hs : scenario.Settled last pipes attempted (untilWait log) := hc.untilWait
  have hstarted : (children (untilWait log)).map Prod.fst = started := by
    rw [hs.children, ← hc.children]
  refine ⟨?_, hc.starts, ?_, owned_eq_zero hs.acquired hs.closes, ?_,
    owned_eq_zero hc.acquired hc.closes, ?_, ?_⟩
  · intro i request hi
    obtain ⟨stage, ha, hr, -⟩ := (mem_children_iff hc.children).mp hi
    obtain ⟨path, hp, rfl⟩ := Option.map_eq_some_iff.mp hr
    obtain ⟨rest, rfl⟩ := hprefix
    have hlt : i < attempted.length := (List.getElem?_eq_some_iff.mp ha).1
    refine ⟨stage, path, by rw [List.getElem?_append_left hlt, ha], ?_, rfl⟩
    unfold Stage.path? at hp
    split at hp <;> simp_all
  · rw [hc.requests]
    exact scenario.startRequests_nodup last attempted
  · intro pipe hp owner
    rw [← hstarted]
    exact ⟨hs.holds_iff_of_meant (by simp) (by simp) (writing_meant_iff hp) owner,
      hs.holds_iff_of_meant (by simp) (by simp) reading_meant_iff owner⟩
  · rw [acquired, hc.acquired]
    exact hc.closes
  · exact hc.closes.nodup_iff.mpr (scenario.handles_nodup pipes)

/-- When the middle one of three stages is missing, the last can read and nobody can write. -/
theorem run_wiring_missing_stage :
    let scenario := ofAnswers (fun _ => none) fun _ => .ok 0
    let stages : List Stage := [⟨⟨"yes", []⟩, .external "/bin/yes"⟩, ⟨⟨"nosuch", []⟩, .unknown⟩,
      ⟨⟨"cat", []⟩, .external "/bin/cat"⟩]
    let log := (run scenario.system stages scenario.outer (ready stages)).2.log
    ∀ owner, ¬ Holds scenario.outer (untilWait log) (scenario.handle (.writing 1)) owner ∧
      (Holds scenario.outer (untilWait log) (scenario.handle (.reading 1)) owner ↔
        owner = .child 2) := by
  intro scenario stages log owner
  obtain ⟨-, -, -, -, hholds, -⟩ := run_wiring scenario stages
  obtain ⟨hw, hr⟩ := hholds 1 (by decide) owner
  have hmissing : 1 ∉ (children log).map Prod.fst := by decide
  have hstarted : 2 ∈ (children log).map Prod.fst := by decide
  refine ⟨fun h => hmissing (hw.mp h).2, fun h => (hr.mp h).1, fun h => hr.mpr ⟨h, hstarted⟩⟩

end Scenario

end Execution

end PipeShell
