import PipeShell.Proofs.ExecutionStages
import PipeShell.Proofs.ShellSimulation

/-!
# The course of a line

On a traced host every way in which a line can end is known together with all that was said at the
terminal on the way. `Spoke` is the part of the way on which the shell did nothing but speak and run
processes. A line that fails spoke only, and its last words met a fault.
-/
namespace PipeShell

open ShellM

variable {σ δ α β : Type}

/-- What holds of a value and the state it leaves, or of a fault and the state it leaves. -/
def Ends (result : EStateM.Result Fault (ShellState σ) α) (done : α → ShellState σ → Prop)
    (broken : Fault → ShellState σ → Prop) : Prop :=
  match result with
  | .ok value after => done value after
  | .error fault after => broken fault after

section Ends

variable {s : ShellState σ} {x : ShellM σ α} {f : α → ShellM σ β}
  {done done' : α → ShellState σ → Prop} {finished : β → ShellState σ → Prop}
  {broken broken' : Fault → ShellState σ → Prop}

theorem ends_bind (h : Ends (x s) done broken') (hb : ∀ fault t, broken' fault t → broken fault t)
    (hf : ∀ value t, x s = .ok value t → done value t → Ends (f value t) finished broken) :
    Ends ((x >>= f) s) finished broken := by
  change Ends (EStateM.bind x f s) finished broken
  unfold EStateM.bind
  generalize hr : x s = r at h hf ⊢
  cases r with
  | ok value t => exact hf value t rfl h
  | error fault t => exact hb fault t h

theorem Ends.mono {result : EStateM.Result Fault (ShellState σ) α} (h : Ends result done broken)
    (hd : ∀ value t, done value t → done' value t)
    (hb : ∀ fault t, broken fault t → broken' fault t) : Ends result done' broken' := by
  cases result with
  | ok value t => exact hd value t h
  | error fault t => exact hb fault t h

end Ends

/-- The shell said these words and changed nothing that it remembers, nor its directory. -/
structure Spoke (directory : σ → δ) (s : ShellState (Traced σ)) (words : List Utterance)
    (after : ShellState (Traced σ)) : Prop where
  running : after.running = s.running
  status : after.status = s.status
  prompts : after.prompts = s.prompts
  directory : directory after.world.world = directory s.world.world
  said : said after.world.log = said s.world.log ++ words

/-- The shell spoke only, and its last words met the fault. -/
def Broke (directory : σ → δ) (s : ShellState (Traced σ)) (fault : Fault)
    (after : ShellState (Traced σ)) : Prop :=
  ∃ words last, Spoke directory s (words ++ [last]) after ∧ last.fault? = some fault

variable {directory : σ → δ} {s t after : ShellState (Traced σ)}

theorem Spoke.refl (s : ShellState (Traced σ)) : Spoke directory s [] s :=
  ⟨rfl, rfl, rfl, rfl, by simp⟩

theorem Spoke.trans {first second : List Utterance} (h : Spoke directory s first t)
    (h' : Spoke directory t second after) : Spoke directory s (first ++ second) after where
  running := h'.running.trans h.running
  status := h'.status.trans h.status
  prompts := h'.prompts.trans h.prompts
  directory := h'.directory.trans h.directory
  said := by rw [h'.said, h.said, List.append_assoc]

theorem Spoke.broke {words : List Utterance} {fault : Fault} (h : Spoke directory s words t)
    (h' : Broke directory t fault after) : Broke directory s fault after := by
  obtain ⟨words', last, hs, hl⟩ := h'
  refine ⟨words ++ words', last, ?_, hl⟩
  rw [List.append_assoc]
  exact h.trans hs

theorem Spoke.broken {fault : Fault} {last : Utterance} (h : Spoke directory s [last] after)
    (hl : last.fault? = some fault) : Broke directory s fault after :=
  ⟨[], last, h, hl⟩

theorem Broke.faults {fault : Fault} (h : Broke directory s fault after) :
    fault ∈ faults after.world.log := by
  obtain ⟨words, last, hs, hl⟩ := h
  rw [PipeShell.faults, hs.said]
  exact List.mem_filterMap.mpr ⟨last, by simp, hl⟩

def Shell.announced (settings : Settings) (pipeline : Pipeline) : List Utterance :=
  (Shell.announcement? settings pipeline).toList.map fun text =>
    .wrote .out (text ++ "\n").toUTF8 (.ok ())

def Shell.reported (stage : StageEnd) : Utterance :=
  .wrote .err (Shell.complaint stage ++ "\n").toUTF8 (.ok ())

def Shell.closing : Except Shell.Aborted Completion → List Utterance
  | .ok completion => completion.neverRan.map Shell.reported
  | .error cause =>
    [.wrote .out (Shell.abortNotice cause).toUTF8 (.ok ())]

def Shell.statusAfter : Except Shell.Aborted Completion → Int32
  | .ok completion => completion.status
  | .error _ => 1

/-- What a built-in that does not fail comes to: it ends the session, moves, or speaks only. -/
inductive Builtin.Course (host : Host σ) (directory : σ → δ) (kind : Builtin)
    (s : ShellState (Traced σ)) : Int32 → ShellState (Traced σ) → Prop
  | ended : kind = .exit → Course host directory kind s 0 { s with running := false }
  | moved {path : String} {w : σ} : kind = .cd →
    host.changeDirectory path s.world.world = (.ok (), w) →
    Course host directory kind s 0
      { s with world := ⟨w, s.world.log ++ [.moved path (.ok ())]⟩ }
  | spoke {code : Int32} {words : List Utterance} {after : ShellState (Traced σ)} :
    Spoke directory s words after → Course host directory kind s code after

/-- What a built-in that does not fail answers: beyond ending the session or moving, it tells on the
output what it was asked for, or says on the error channel why it failed or lost its output. -/
inductive Builtin.Answer (host : Host σ) (directory : σ → δ) (kind : Builtin)
    (s : ShellState (Traced σ)) : Int32 → ShellState (Traced σ) → Prop
  | ended : kind = .exit → Answer host directory kind s 0 { s with running := false }
  | moved {path : String} {w : σ} : kind = .cd →
    host.changeDirectory path s.world.world = (.ok (), w) →
    Answer host directory kind s 0
      { s with world := ⟨w, s.world.log ++ [.moved path (.ok ())]⟩ }
  | told {texts : List ByteArray} {after : ShellState (Traced σ)} :
    Spoke directory s (texts.map fun text => .wrote .out text (.ok ())) after →
    Answer host directory kind s 0 after
  | failed {reason : String} {after : ShellState (Traced σ)} :
    Spoke directory s [.wrote .err (reason ++ "\n").toUTF8 (.ok ())] after →
    Answer host directory kind s 1 after
  | lost {text : ByteArray} {fault : Fault} {after : ShellState (Traced σ)} :
    Spoke directory s [.wrote .out text (.error fault),
      .wrote .err (fault.message ++ "\n").toUTF8 (.ok ())] after →
    Answer host directory kind s 1 after

theorem Builtin.Answer.course {host : Host σ} {kind : Builtin} {code : Int32}
    (h : Builtin.Answer host directory kind s code after) :
    Builtin.Course host directory kind s code after := by
  cases h with
  | ended hk => exact .ended hk
  | moved hk hm => exact .moved hk hm
  | told hs => exact .spoke hs
  | failed hs => exact .spoke hs
  | lost hs => exact .spoke hs

/-- What a line that does not fail comes to. -/
inductive Shell.Course (host : Host σ) (directory : σ → δ) (settings : Settings) (line : String)
    (s : ShellState (Traced σ)) : ShellState (Traced σ) → Prop
  | refused {cause : ParseError} {after : ShellState (Traced σ)} :
    Pipeline.ofLine settings.maxCommands line = .error cause →
    Spoke directory s [.wrote .out (Shell.refusal cause ++ "\n").toUTF8 (.ok ())] after →
    Course host directory settings line s after
  | shown {pipeline : Pipeline} {after : ShellState (Traced σ)} :
    Pipeline.ofLine settings.maxCommands line = .ok pipeline →
    Shell.executed? settings line = none →
    Spoke directory s (Shell.announced settings pipeline) after →
    Course host directory settings line s after
  | builtin {kind : Builtin} {args : List String} {told after : ShellState (Traced σ)}
      {code : Int32} :
    Shell.executed? settings line = some ⟨⟨kind.name, args⟩, []⟩ →
    Spoke directory s (Shell.announced settings ⟨⟨kind.name, args⟩, []⟩) told →
    Shell.endOf? host.traced settings line s = some (.builtin kind code) →
    Builtin.run host.traced kind args told = .ok code after →
    Builtin.Course host directory kind told code after →
    Course host directory settings line s { after with status := code }
  | processes {pipeline : Pipeline} {result : Except Shell.Aborted Completion}
      {after : ShellState (Traced σ)} :
    Shell.executed? settings line = some pipeline → pipeline.builtin? = none →
    Shell.endOf? host.traced settings line s = some (.processes result) →
    Spoke directory s
      (Shell.announced settings pipeline ++ .flushed .out (.ok ()) :: Shell.closing result)
      after →
    Course host directory settings line s { after with status := Shell.statusAfter result }

theorem Shell.endOf?_ended {host : Host σ} {settings : Settings} {line : String}
    {s : ShellState σ} {completion : Completion}
    (h : Shell.endOf? host settings line s = some (.processes (.ok completion))) :
    ∃ pipeline w, Shell.executed? settings line = some pipeline ∧
      List.Forall₂ (fun (stage, i) => Execution.EndedAt i stage)
        ((Shell.stagesOf host.toSystem w pipeline).zipIdx 1) completion.stages := by
  obtain ⟨pipeline, told, world, hx, -, -, -, hr⟩ := Shell.endOf?_eq_processes h
  exact ⟨pipeline, told.world, hx, Execution.runStages_ended hr⟩

theorem ends_onWorld {x : σ → Except Fault α × σ} {s : ShellState σ}
    {done : Except Fault α → ShellState σ → Prop}
    (h : Ends (attempt x s) done (fun _ _ => False)) :
    Ends (onWorld x s) (fun value => done (.ok value)) (fun fault => done (.error fault)) := by
  unfold onWorld
  simp only [attempt, Ends] at h
  generalize x s.world = r at h ⊢
  obtain ⟨answer, w⟩ := r
  cases answer with
  | ok value => exact h
  | error fault => exact h

namespace Host.KeepsDirectory

variable {host : Host σ}

theorem spoke_write (h : host.KeepsDirectory directory) (channel : Channel) (bytes : ByteArray) :
    Ends (attempt (host.traced.write channel bytes) s)
      (fun answer => Spoke directory s [.wrote channel bytes answer]) (fun _ _ => False) where
  running := rfl
  status := rfl
  prompts := rfl
  directory := h.write channel bytes s.world.world
  said := by simp [Host.traced, Traced.note, PipeShell.said, Act.said?]

theorem spoke_flush (h : host.KeepsDirectory directory) (channel : Channel) :
    Ends (onWorld (host.traced.flush channel) s)
      (fun _ => Spoke directory s [.flushed channel (.ok ())])
      (fun fault => Spoke directory s [.flushed channel (.error fault)]) := by
  have hf : Ends (attempt (host.traced.flush channel) s)
      (fun answer => Spoke directory s [.flushed channel answer]) (fun _ _ => False) := {
    running := rfl
    status := rfl
    prompts := rfl
    directory := h.flush channel s.world.world
    said := by simp [Host.traced, Traced.note, PipeShell.said, Act.said?] }
  exact ends_onWorld hf

theorem spoke_printLine (h : host.KeepsDirectory directory) (channel : Channel) (line : String) :
    Ends (printLine host.traced channel line s)
      (fun _ => Spoke directory s [.wrote channel (line ++ "\n").toUTF8 (.ok ())])
      (fun fault => Spoke directory s [.wrote channel (line ++ "\n").toUTF8 (.error fault)]) :=
  ends_onWorld (h.spoke_write channel _)

theorem spoke_runStages (h : host.KeepsDirectory directory) (stages : List Stage) :
    Ends (attempt (Shell.runStages host.traced.toSystem stages) s)
      (fun result t => result = (Shell.runStages host.traced.toSystem stages s.world).1 ∧
        Spoke directory s [] t)
      (fun _ _ => False) := by
  refine ⟨rfl, rfl, rfl, rfl, ?_, ?_⟩
  · exact (Host.traced_keeps h.toKeeps).runStages stages s.world
  · rw [List.append_nil]
    exact (Host.traced_keeps_said host).runStages stages s.world

theorem announce_ends (h : host.KeepsDirectory directory) (settings : Settings)
    (pipeline : Pipeline) :
    Ends (Shell.announce host.traced settings pipeline s)
      (fun _ => Spoke directory s (Shell.announced settings pipeline)) (Broke directory s) := by
  unfold Shell.announce Shell.announced
  cases Shell.announcement? settings pipeline with
  | none => exact Spoke.refl s
  | some text =>
    exact (h.spoke_printLine .out text).mono (fun _ _ hd => hd) fun _ _ hb => hb.broken rfl

theorem reportFrom_ends (h : host.KeepsDirectory directory) (stages : List StageEnd) :
    Ends (Shell.reportFrom host.traced stages s)
      (fun _ => Spoke directory s (stages.map Shell.reported))
      (fun fault after => ∃ words bytes,
        Spoke directory s (words ++ [.wrote .err bytes (.error fault)]) after) := by
  induction stages generalizing s with
  | nil => exact Spoke.refl s
  | cons stage rest ih =>
    refine ends_bind (h.spoke_printLine .err _) (fun _ _ hb => ⟨[], _, hb⟩) fun _ t _ ht => ?_
    refine ih.mono (fun _ _ hd => ht.trans hd) fun fault after hb => ?_
    obtain ⟨words, bytes, hs⟩ := hb
    exact ⟨_ :: words, bytes, ht.trans hs⟩

theorem fail_ends (h : host.KeepsDirectory directory) (reason : String) :
    Ends (Builtin.fail host.traced reason s)
      (fun code after => code = 1 ∧
        Spoke directory s [.wrote .err (reason ++ "\n").toUTF8 (.ok ())] after)
      (Broke directory s) := by
  refine ends_bind (h.spoke_printLine .err reason) (fun _ _ hb => hb.broken rfl)
    fun _ t _ ht => ?_
  exact ⟨rfl, ht⟩

/-- Text that is presented reaches the output, or its loss is reported. -/
theorem present_ends (h : host.KeepsDirectory directory) (text : String) :
    Ends (Builtin.present host.traced text s)
      (fun code after =>
        code = 0 ∧ Spoke directory s [.wrote .out text.toUTF8 (.ok ())] after ∨
        code = 1 ∧ ∃ fault, Spoke directory s [.wrote .out text.toUTF8 (.error fault),
          .wrote .err (fault.message ++ "\n").toUTF8 (.ok ())] after)
      (Broke directory s) := by
  refine ends_bind (h.spoke_write .out text.toUTF8) (fun _ _ hb => hb.elim)
    fun answer t _ ht => ?_
  cases answer with
  | ok _ => exact .inl ⟨rfl, ht⟩
  | error fault =>
    exact (h.fail_ends fault.message).mono (fun code _ hd => .inr ⟨hd.1, fault, ht.trans hd.2⟩)
      fun _ _ hb => ht.broke hb

theorem fail_answers (h : host.KeepsDirectory directory) (kind : Builtin) (reason : String) :
    Ends (Builtin.fail host.traced reason s)
      (Builtin.Answer host directory kind s) (Broke directory s) := by
  refine (h.fail_ends reason).mono (fun code after hd => ?_) fun _ _ hb => hb
  obtain ⟨rfl, hs⟩ := hd
  exact .failed hs

theorem present_answers (h : host.KeepsDirectory directory) (kind : Builtin) (text : String) :
    Ends (Builtin.present host.traced text s)
      (Builtin.Answer host directory kind s) (Broke directory s) := by
  refine (h.present_ends text).mono (fun code after hd => ?_) fun _ _ hb => hb
  rcases hd with ⟨rfl, hs⟩ | ⟨rfl, fault, hs⟩
  · have htold : [Utterance.wrote .out text.toUTF8 (.ok ())] =
        [text.toUTF8].map fun text => .wrote .out text (.ok ()) := rfl
    rw [htold] at hs
    exact .told hs
  · exact .lost hs

theorem changeTo_answers (h : host.KeepsDirectory directory) (targets : List String) :
    Ends (Builtin.changeTo host.traced targets s)
      (Builtin.Answer host directory .cd s) (Broke directory s) := by
  cases targets with
  | nil =>
    have htold : Spoke directory s (([] : List ByteArray).map fun text => .wrote .out text (.ok ()))
        s := Spoke.refl s
    exact .told htold
  | cons target rest =>
    let moved := host.changeDirectory target s.world.world
    have hm : Ends (attempt (host.traced.changeDirectory target) s)
        (fun answer t => answer = moved.1 ∧
          t = { s with world := ⟨moved.2, s.world.log ++ [.moved target moved.1]⟩ })
        (fun _ _ => False) := ⟨rfl, rfl⟩
    refine ends_bind hm (fun _ _ hb => hb.elim) fun answer t _ ht => ?_
    obtain ⟨ha, rfl⟩ := ht
    rw [← ha]
    cases answer with
    | ok _ => exact .moved rfl (Prod.ext ha.symm rfl)
    | error fault =>
      have hs : Spoke directory s []
          { s with world := ⟨moved.2, s.world.log ++ [.moved target (.error fault)]⟩ } :=
        ⟨rfl, rfl, rfl, h.refused ha.symm, by simp [PipeShell.said, Act.said?]⟩
      refine (h.fail_ends _).mono (fun code after hd => ?_) fun _ _ hb => hs.broke hb
      obtain ⟨rfl, hf⟩ := hd
      exact .failed (hs.trans hf)

theorem builtin_answers (h : host.KeepsDirectory directory) (kind : Builtin)
    (args : List String) :
    Ends (Builtin.run host.traced kind args s)
      (Builtin.Answer host directory kind s) (Broke directory s) := by
  unfold Builtin.run
  cases kind.grammar.read args with
  | ok values =>
    cases kind with
    | exit => exact .ended rfl
    | cd => exact h.changeTo_answers values.positionals
    | rc => exact h.present_answers .rc _
    | dragon => exact h.present_answers .dragon _
  | error stop =>
    cases stop with
    | help text =>
      refine ends_bind (h.spoke_printLine .out _) (fun _ _ hb => hb.broken rfl) fun _ t _ ht => ?_
      have htold : Spoke directory s
          ([(Text.trimEnd text ++ "\n").toUTF8].map fun text => .wrote .out text (.ok ())) t := ht
      exact .told htold
    | refused cause => exact h.fail_answers kind _

theorem builtin_ends (h : host.KeepsDirectory directory) (kind : Builtin) (args : List String) :
    Ends (Builtin.run host.traced kind args s)
      (Builtin.Course host directory kind s) (Broke directory s) :=
  (h.builtin_answers kind args).mono (fun _ _ hd => hd.course) fun _ _ hb => hb

/-- A run of processes that does not fail: the output is flushed, the processes run, and what came
of them is said. -/
theorem runProcesses_ends (h : host.KeepsDirectory directory) (stages : List Stage) :
    Ends (Shell.runProcesses host.traced stages s)
      (fun _ after => ∃ world t,
        host.traced.flush .out s.world = (.ok (), world) ∧
        Spoke directory s (.flushed .out (.ok ()) ::
          Shell.closing (Shell.runStages host.traced.toSystem stages world).1) t ∧
        after = { t with
          status := Shell.statusAfter (Shell.runStages host.traced.toSystem stages world).1 })
      (Broke directory s) := by
  refine ends_bind (h.spoke_flush .out) (fun _ _ hb => hb.broken rfl) fun _ flushed hf hs => ?_
  have hw : host.traced.flush .out s.world = (.ok (), flushed.world) := by
    unfold onWorld at hf
    split at hf
    · next answer world he =>
      injection hf with _ hf
      rw [he, ← hf]
    · cases hf
  refine ends_bind (h.spoke_runStages stages) (fun _ _ hb => hb.elim) fun result ran _ hr => ?_
  obtain ⟨rfl, hr⟩ := hr
  have hran : Spoke directory s [.flushed .out (.ok ())] ran := hs.trans hr
  cases hc : (Shell.runStages host.traced.toSystem stages flushed.world).1 with
  | ok completion =>
    refine ends_bind (h.reportFrom_ends completion.neverRan) (fun _ _ hb => ?_) fun _ t _ ht => ?_
    · obtain ⟨words, bytes, hb⟩ := hb
      exact hran.broke ⟨words, _, hb, rfl⟩
    · refine ⟨flushed.world, t, hw, ?_, ?_⟩
      · rw [hc]
        exact hran.trans ht
      · rw [hc]
        rfl
  | error cause =>
    refine ends_bind (h.spoke_printLine .out _) (fun _ _ hb => hran.broke (hb.broken rfl))
      fun _ t _ ht => ?_
    refine ⟨flushed.world, t, hw, ?_, ?_⟩
    · rw [hc]
      exact hran.trans ht
    · rw [hc]
      rfl

/-- A line takes one of its courses, or its last words met a fault and nothing else came of it. -/
theorem runLine_ends (h : host.KeepsDirectory directory) (settings : Settings) (line : String) :
    Ends (Shell.runLine host.traced settings line s)
      (fun _ => Shell.Course host directory settings line s) (Broke directory s) := by
  cases hp : Pipeline.ofLine settings.maxCommands line with
  | error cause =>
    rw [Shell.runLine_refused hp]
    exact (h.spoke_printLine .out _).mono (fun _ _ hd => .refused hp hd) fun _ _ hb => hb.broken rfl
  | ok pipeline =>
    cases hx : Shell.executed? settings line with
    | none =>
      rw [Shell.runLine_shown hp hx]
      exact (h.announce_ends settings pipeline).mono (fun _ _ hd => .shown hp hx hd)
        fun _ _ hb => hb
    | some executed =>
      rw [Shell.runLine_executed hx]
      refine ends_bind (h.announce_ends settings executed) (fun _ _ hb => hb)
        fun _ told ha ht => ?_
      cases hb : executed.builtin? with
      | some kind =>
        rw [Shell.carryOut_builtin hb]
        obtain ⟨args, rfl⟩ := Pipeline.builtin?_eq_some_iff.mp hb
        refine ends_bind (h.builtin_ends kind args) (fun _ _ hb => ht.broke hb)
          fun code after hr hc => ?_
        exact .builtin hx ht (Shell.endOf?_builtin hx ha hr) hr hc
      | none =>
        rw [Shell.carryOut_processes hb]
        refine (h.runProcesses_ends _).mono (fun _ after hd => ?_) fun _ _ hb => ht.broke hb
        obtain ⟨world, t, hf, hs, rfl⟩ := hd
        exact .processes hx hb (Shell.endOf?_processes hx hb ha hf) (ht.trans hs)

end Host.KeepsDirectory

end PipeShell
