import PipeShell.Proofs.StageReports

/-!
# The words that processes are waited for with

`Host.watched` does all that a host does and notes the processes that it starts and the words that
they are waited for with. Main statement: when a run comes to an end, each of its stages never ran,
or one process was started for it and the word of that process says how the stage ended. So the last
stage, if it ran, has the last process and the last word.
-/
namespace PipeShell

variable {σ : Type}

/-- A state with the processes that were started so far and the words that were heard of them. -/
structure Watched (σ : Type) where
  world : σ
  spawned : List (StartRequest × ProcessId) := []
  heard : List (ProcessId × Int32) := []

def Watched.notes (t : Watched σ) : List (StartRequest × ProcessId) × List (ProcessId × Int32) :=
  (t.spawned, t.heard)

def Watched.unnoted {α : Type} (t : Watched σ) (r : α × σ) : α × Watched σ :=
  (r.1, { t with world := r.2 })

namespace Host

def watched (host : Host σ) : Host (Watched σ) where
  searchPath t := host.searchPath t.world
  fileInfo t := host.fileInfo t.world
  currentDirectory t := host.currentDirectory t.world
  changeDirectory path t := t.unnoted (host.changeDirectory path t.world)
  openStreams t := t.unnoted (host.openStreams t.world)
  openPipe onExec t := t.unnoted (host.openPipe onExec t.world)
  close handle t := { t with world := host.close handle t.world }
  start request t :=
    match host.start request t.world with
    | (.ok process, world) =>
      (.ok process, { t with world, spawned := t.spawned ++ [(request, process)] })
    | (.error cause, world) => (.error cause, { t with world })
  wait process t :=
    match host.wait process t.world with
    | (.ok word, world) => (.ok word, { t with world, heard := t.heard ++ [(process, word)] })
    | (.error cause, world) => (.error cause, { t with world })
  write channel bytes t := t.unnoted (host.write channel bytes t.world)
  flush channel t := t.unnoted (host.flush channel t.world)

theorem watched_alike (host : Host σ) :
    Host.Alike (fun t w => t.world = w) host.watched host where
  openStreams := by rintro t _ rfl; exact ⟨_, _, _, rfl, rfl, rfl⟩
  openPipe onExec := by rintro rfl; exact ⟨_, _, _, rfl, rfl, rfl⟩
  close handle := by rintro rfl; rfl
  start {t w} request := by
    rintro rfl
    simp only [watched]
    cases host.start request t.world with
    | mk answer world => cases answer <;> exact ⟨_, _, _, rfl, rfl, rfl⟩
  wait {t w} process := by
    rintro rfl
    simp only [watched]
    cases host.wait process t.world with
    | mk answer world => cases answer <;> exact ⟨_, _, _, rfl, rfl, rfl⟩
  searchPath := by rintro t _ rfl; rfl
  fileInfo path := by rintro rfl; rfl
  changeDirectory path := by rintro rfl; exact ⟨_, _, _, rfl, rfl, rfl⟩
  write channel bytes := by rintro rfl; exact ⟨_, _, _, rfl, rfl, rfl⟩
  flush channel := by rintro rfl; exact ⟨_, _, _, rfl, rfl, rfl⟩

end Host

/-- How a stage comes to its ending: it has no process, or one whose word says so. -/
inductive Stage.Heard (stage : Stage) :
    List (StartRequest × ProcessId) → List (ProcessId × Int32) → Ending → Prop
  | silent {ending : Ending} : ending.neverRan = true → Heard stage [] [] ending
  | spoke {request : StartRequest} {process : ProcessId} (word : Int32) : request.IsFor stage →
    Heard stage [(request, process)] [(process, word)] (.ofWaitWord word)

/-- How stages come to their endings, each by its own process and word. -/
inductive StagesHeard : List Stage → List (StartRequest × ProcessId) → List (ProcessId × Int32) →
    List StageEnd → Prop
  | nil : StagesHeard [] [] [] []
  | cons {position : Nat} {stage : Stage} {ending : Ending} {rest : List Stage}
    {first later : List (StartRequest × ProcessId)} {words others : List (ProcessId × Int32)}
    {ends : List StageEnd} :
    stage.Heard first words ending → StagesHeard rest later others ends →
    StagesHeard (stage :: rest) (first ++ later) (words ++ others)
      (⟨position, stage.command.name, ending⟩ :: ends)

/-- The last stage never ran, or the last process is its own and the last word is that of it. -/
theorem StagesHeard.last {stages : List Stage} {spawned : List (StartRequest × ProcessId)}
    {heard : List (ProcessId × Int32)} {ends : List StageEnd} {stageEnd : StageEnd}
    (h : StagesHeard stages spawned heard ends) (hl : ends.getLast? = some stageEnd) :
    stageEnd.ending.neverRan = true ∨
      ∃ stage request process word, stages.getLast? = some stage ∧ request.IsFor stage ∧
        spawned.getLast? = some (request, process) ∧ heard.getLast? = some (process, word) ∧
        stageEnd.ending = .ofWaitWord word := by
  induction h with
  | nil => cases hl
  | @cons position stage ending rest first later words others ends hfirst hrest ih =>
    cases hrest with
    | nil =>
      -- the first stage is the last one
      obtain rfl := Option.some.inj hl
      cases hfirst with
      | silent hn => exact .inl hn
      | @spoke request process word hfor =>
        exact .inr ⟨stage, request, process, word, rfl, hfor, rfl, rfl, rfl⟩
    | cons _ _ =>
      rw [List.getLast?_cons_cons] at hl
      rcases ih hl with hn | ⟨last, request, process, word, hs, hfor, hp, hw, he⟩
      · exact .inl hn
      · refine .inr ⟨last, request, process, word, ?_, hfor, ?_, ?_, he⟩
        · rw [List.getLast?_cons_cons, hs]
        · rw [List.getLast?_append, hp, Option.some_or]
        · rw [List.getLast?_append, hw, Option.some_or]

section Run

open Execution

variable (host : Host σ)

theorem closeAll_notes (handles : List Handle) (t : Watched σ) :
    (Conduits.closeAll host.watched.toSystem handles t).notes = t.notes := by
  induction handles generalizing t with
  | nil => rfl
  | cons handle rest ih => exact ih (host.watched.close handle t)

theorem openFrom_notes (opened : List Conduit) (count : Nat) (t : Watched σ) :
    (Conduits.openFrom host.watched.toSystem opened count t).2.notes = t.notes := by
  induction count generalizing opened t with
  | zero => rfl
  | succ count ih =>
    have ho : (host.watched.openPipe .close t).2.notes = t.notes := rfl
    rw [Conduits.openFrom]
    split
    · next ends u he =>
      rw [he] at ho
      exact (ih _ u).trans ho
    · next cause u he =>
      rw [he] at ho
      exact (closeAll_notes host _ u).trans ho

/-- Where a stage got to: it has ended without a process, or it has one. -/
def Stage.Spawned (stage : Stage) (spawned : List (StartRequest × ProcessId)) : Attempt → Prop
  | .ended ending => spawned = [] ∧ ending.neverRan = true
  | .running process =>
    ∃ request : StartRequest, request.IsFor stage ∧ spawned = [(request, process)]

theorem neverRan_of_fault {cause : Fault} {ending : Ending}
    (h : endingOfFault cause = some ending) : ending.neverRan = true := by
  rcases endingOfFault_eq_some h with rfl | rfl <;> rfl

theorem startStage_notes (stage : Stage) (input output : Option Handle) (t : Watched σ) :
    ∃ spawned, (startStage host.watched.toSystem stage input output t).2.notes =
        (t.spawned ++ spawned, t.heard) ∧
      ∀ attempt, (startStage host.watched.toSystem stage input output t).1 = .ok attempt →
        stage.Spawned spawned attempt := by
  unfold startStage
  simp only [closeAll_notes]
  have hnone : t.notes = (t.spawned ++ [], t.heard) := by rw [List.append_nil]; rfl
  cases ht : stage.target with
  | builtin kind =>
    refine ⟨[], hnone, fun attempt ha => ?_⟩
    obtain rfl := Except.ok.inj ha
    exact ⟨rfl, rfl⟩
  | unknown =>
    refine ⟨[], hnone, fun attempt ha => ?_⟩
    obtain rfl := Except.ok.inj ha
    exact ⟨rfl, rfl⟩
  | external path =>
    let request : StartRequest := ⟨path, stage.command.name, stage.command.args, input, output⟩
    have hfor : request.IsFor stage := ⟨by rw [Stage.path?, ht], rfl, rfl⟩
    simp only [Host.watched]
    cases host.start request t.world with
    | mk answer world =>
      cases answer with
      | ok process =>
        refine ⟨[(request, process)], rfl, fun attempt ha => ?_⟩
        obtain rfl := Except.ok.inj ha
        exact ⟨request, hfor, rfl⟩
      | error cause =>
        cases he : endingOfFault cause with
        | some ending =>
          simp only [he]
          refine ⟨[], hnone, fun attempt ha => ?_⟩
          obtain rfl := Except.ok.inj ha
          exact ⟨rfl, neverRan_of_fault he⟩
        | none =>
          simp only [he]
          exact ⟨[], hnone, fun attempt ha => by cases ha⟩

theorem wait_notes {process : ProcessId} {t u : Watched σ} {word : Int32}
    (h : host.watched.wait process t = (.ok word, u)) :
    u.notes = (t.spawned, t.heard ++ [(process, word)]) := by
  simp only [Host.watched] at h
  split at h
  · obtain ⟨hword, rfl⟩ := Prod.mk.inj h
    rw [Except.ok.inj hword]
    rfl
  · cases h

theorem startFrom_notes (last index : Nat) (plumbing : Plumbing) (stages : List Stage)
    (t : Watched σ) :
    let started := startFrom host.watched.toSystem last index plumbing t stages
    ∃ spawned, started.world.notes = (t.spawned ++ spawned, t.heard) ∧
      (started.failure = none → ∀ (position : Nat) (u : Watched σ),
        let finished := waitFrom host.watched.toSystem position u started.launched
        finished.failure = none →
        ∃ heard, finished.world.notes = (u.spawned, u.heard ++ heard) ∧
          StagesHeard stages spawned heard finished.ended) := by
  induction stages generalizing index plumbing t with
  | nil =>
    have hnone (u : Watched σ) : u.notes = (u.spawned, u.heard ++ []) := by
      rw [List.append_nil]
      rfl
    refine ⟨[], ?_, fun _ position u _ => ⟨[], hnone u, .nil⟩⟩
    rw [List.append_nil]
    rfl
  | cons stage rest ih =>
    obtain ⟨first, hnotes, hspawned⟩ := startStage_notes host stage
      (plumbing.takeInput index).1 ((plumbing.takeInput index).2.takeOutput index last).1 t
    simp only [startFrom]
    generalize startStage host.watched.toSystem stage _ _ t = answered at hnotes hspawned ⊢
    obtain ⟨answer, v⟩ := answered
    obtain ⟨hfirst, hquiet⟩ := Prod.mk.inj hnotes
    cases answer with
    | error cause => exact ⟨first, hnotes, fun hf => by cases hf⟩
    | ok attempt =>
      obtain ⟨later, hrest, hheard⟩ :=
        ih (index + 1) ((plumbing.takeInput index).2.takeOutput index last).2 v
      refine ⟨first ++ later, ?_, fun hf position u hw => ?_⟩
      · rw [hrest, ← List.append_assoc, ← hfirst, ← hquiet]
      · have hstage := hspawned attempt rfl
        cases attempt with
        | ended ending =>
          obtain ⟨rfl, hn⟩ := hstage
          obtain ⟨heard, hwait, hends⟩ := hheard hf (position + 1) u hw
          exact ⟨heard, hwait, .cons (.silent hn) hends⟩
        | running process =>
          obtain ⟨request, hfor, rfl⟩ := hstage
          simp only [waitFrom] at hw ⊢
          split at hw
          · next word waited hwaited =>
            obtain ⟨heard, hwait, hends⟩ := hheard hf (position + 1) waited hw
            obtain ⟨hs, hh⟩ := Prod.mk.inj (wait_notes host hwaited)
            refine ⟨[(process, word)] ++ heard, ?_, .cons (.spoke word hfor) hends⟩
            rw [← List.append_assoc, ← hs, ← hh]
            exact hwait
          · cases hw

/-- A run that comes to an end has started and heard just what its stages came to. -/
theorem run_notes (stages : List Stage) (outer : OuterStreams) (t : Watched σ)
    {completion : Completion}
    (h : (run host.watched.toSystem stages outer t).1 = .ok completion) :
    ∃ spawned heard, (run host.watched.toSystem stages outer t).2.notes =
        (t.spawned ++ spawned, t.heard ++ heard) ∧
      StagesHeard stages spawned heard completion.stages := by
  have hopen := openFrom_notes host [] (stages.length - 1) t
  unfold run Conduits.openFor at h ⊢
  generalize Conduits.openFrom host.watched.toSystem [] (stages.length - 1) t = opened at h hopen ⊢
  obtain ⟨answer, u⟩ := opened
  obtain ⟨hspawned, hheard⟩ := Prod.mk.inj hopen
  cases answer with
  | error cause => cases h
  | ok pipes =>
    obtain ⟨spawned, hnotes, hwait⟩ := startFrom_notes host (stages.length - 1) 0
      ⟨some outer.input, some outer.output, pipes⟩ stages u
    simp only at h ⊢
    generalize startFrom host.watched.toSystem _ _ _ u stages = started at h hnotes hwait ⊢
    have hclosed := closeAll_notes host started.plumbing.held started.world
    split at h
    · cases h
    · next hf =>
      obtain ⟨hstart, hlost⟩ := Option.or_eq_none_iff.mp hf
      obtain ⟨heard, hfinished, hends⟩ := hwait hstart 1
        (Conduits.closeAll host.watched.toSystem started.plumbing.held started.world) hlost
      obtain ⟨hs, hh⟩ := Prod.mk.inj (hclosed.trans hnotes)
      obtain rfl := Except.ok.inj h
      refine ⟨spawned, heard, ?_, hends⟩
      rw [hfinished, hs, hh, hspawned, hheard]

theorem runStages_notes (stages : List Stage) (t : Watched σ) {completion : Completion}
    (h : (Shell.runStages host.watched.toSystem stages t).1 = .ok completion) :
    ∃ spawned heard, (Shell.runStages host.watched.toSystem stages t).2.notes =
        (t.spawned ++ spawned, t.heard ++ heard) ∧
      StagesHeard stages spawned heard completion.stages := by
  have hopen : (host.watched.openStreams t).2.notes = t.notes := rfl
  unfold Shell.runStages at h ⊢
  generalize host.watched.openStreams t = opened at h hopen ⊢
  obtain ⟨answer, u⟩ := opened
  obtain ⟨hspawned, hheard⟩ := Prod.mk.inj hopen
  cases answer with
  | error cause => cases h
  | ok outer =>
    have hrun (found : Completion) (hf : (run host.watched.toSystem stages outer u).1 = .ok found) :=
      run_notes host stages outer u hf
    simp only at h ⊢
    generalize run host.watched.toSystem stages outer u = ran at h hrun ⊢
    obtain ⟨result, v⟩ := ran
    cases result with
    | error cause => cases h
    | ok found =>
      obtain rfl := Except.ok.inj h
      obtain ⟨spawned, heard, hnotes, hends⟩ := hrun found rfl
      rw [hspawned, hheard] at hnotes
      exact ⟨spawned, heard, hnotes, hends⟩

end Run

/-! ### Lines -/

def Host.still (host : Host σ) : Host (Watched σ) :=
  { host.watched with
    start := fun _ t => (.error .notText, t)
    wait := fun _ t => (.ok 0, t) }

theorem Host.still_preserves (host : Host σ)
    (notes : List (StartRequest × ProcessId) × List (ProcessId × Int32)) :
    host.still.Preserves fun t => t.notes = notes where
  openStreams ht := ht
  openPipe _ _ ht := ht
  close _ _ ht := ht
  start _ _ ht := ht
  wait _ _ ht := ht
  changeDirectory _ _ ht := ht
  write _ _ _ ht := ht
  flush _ _ ht := ht

def ShellState.watched (s : ShellState σ) : ShellState (Watched σ) :=
  ⟨s.running, s.status, s.prompts, { world := s.world }⟩

theorem ShellState.watched_alike (s : ShellState σ) :
    ShellState.Alike (fun t w => t.world = w) s.watched s :=
  ⟨rfl, rfl, rfl, rfl⟩

namespace Shell

open ShellM

variable (host : Host σ) (settings : Settings) (line : String) (s : ShellState σ)

def lineNotes : Watched σ := (afterwards (runLine host.watched settings line s.watched)).world

theorem conclude_notes (result : Except Aborted Completion) (t : ShellState (Watched σ)) :
    (afterwards (conclude host.watched result t)).world.notes = t.world.notes := by
  have hend := (host.still_preserves t.world.notes).alike.conclude result (.same rfl)
  have hterminal : host.watched.toTerminal = host.still.toTerminal := rfl
  rw [conclude_of_terminal hterminal]
  exact hend.afterwards.world.2

theorem announce_notes (pipeline : Pipeline) (t : ShellState (Watched σ)) :
    (afterwards (announce host.watched settings pipeline t)).world.notes = t.world.notes := by
  have hend := (host.still_preserves t.world.notes).alike.announce settings pipeline (.same rfl)
  have hterminal : host.watched.toTerminal = host.still.toTerminal := rfl
  rw [announce_of_terminal hterminal]
  exact hend.afterwards.world.2

variable {host settings line s}

/-- When the processes of a line come to an end, all that is noted are theirs. -/
theorem lineNotes_heard {completion : Completion}
    (h : endOf? host settings line s = some (.processes (.ok completion))) :
    ∃ pipeline stages, RunsProcesses settings line pipeline ∧
      stages.map Stage.command = pipeline.commands ∧
      StagesHeard stages (lineNotes host settings line s).spawned
        (lineNotes host settings line s).heard completion.stages := by
  have hwatched := (host.watched_alike.endOf? settings line s.watched_alike).trans h
  obtain ⟨pipeline, told, t, hx, hb, ha, hf, hr⟩ := endOf?_eq_processes hwatched
  let stages := stagesOf host.watched.toSystem told.world pipeline
  let ran := runStages host.watched.toSystem stages t
  have hline : runLine host.watched settings line s.watched =
      conclude host.watched (.ok completion) { told with world := ran.2 } := by
    rw [runLine_executed hx, bind_of_ok ha, carryOut_processes hb, runProcesses_of_flush hf, hr]
  have htold : told.world.notes = ([], []) := by
    have hquiet := announce_notes host settings pipeline s.watched
    rw [ha] at hquiet
    exact hquiet
  have hflushed : t.notes = ([], []) := by
    have hquiet : (host.watched.flush .out told.world).2.notes = told.world.notes := rfl
    rw [hf] at hquiet
    exact hquiet.trans htold
  obtain ⟨hspawned, hheard⟩ := Prod.mk.inj hflushed
  obtain ⟨spawned, heard, hnotes, hends⟩ := runStages_notes host stages t hr
  have hall : (lineNotes host settings line s).notes = (spawned, heard) := by
    rw [lineNotes, hline, conclude_notes]
    rw [hspawned, hheard] at hnotes
    exact hnotes
  obtain ⟨hs, hh⟩ := Prod.mk.inj hall
  refine ⟨pipeline, stages, runsProcesses_of_executed hx hb, ?_, ?_⟩
  · simp only [stages, stagesOf, List.map_map]
    exact List.map_id _
  · rw [hs, hh]
    exact hends

end Shell

end PipeShell
