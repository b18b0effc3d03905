import PipeShell.Proofs.SessionTrace
import PipeShell.Proofs.SharedSink
import PipeShell.Proofs.SourceLines

/-!
# The order of the output

The sink of a shell and its processes gets the passages of the lines one after the other. Main
statement: the passage of a line is what the shell says of it, what its processes write, and the
message if they were given up, whenever the buffer gives up its text and the processes write; and no
process of a line is left when the next line begins.
-/
namespace PipeShell

open ShellM

variable {σ : Type}

def bytesOf (text : String) : List UInt8 := text.toUTF8.data.toList

theorem bytesOf_empty : bytesOf "" = [] := rfl

def Builtin.output (kind : Builtin) (args : List String) (status : Int32) : String :=
  match kind.grammar.read args with
  | .ok _ =>
    match kind with
    | .exit | .cd => ""
    | .rc => toString status ++ "\n"
    | .dragon => dragonPicture
  | .error (.help text) => Text.trimEnd text ++ "\n"
  | .error (.refused _) => ""

namespace Shell

def opening (settings : Settings) (pipeline : Pipeline) : List UInt8 :=
  match announcement? settings pipeline with
  | some text => bytesOf (text ++ "\n")
  | none => []

def abortMessage : Except Aborted Completion → List UInt8
  | .ok _ => []
  | .error cause => bytesOf (abortNotice cause)

/-- What comes to the sink of a line that is executed, if its processes write `chatter`. -/
def executionPassage (host : Host σ) (settings : Settings) (line : String) (s : ShellState σ)
    (pipeline : Pipeline) (chatter : List UInt8) : List UInt8 :=
  match pipeline.builtin? with
  | some kind => bytesOf (kind.output pipeline.first.args s.status)
  | none =>
    match endOf? host settings line s with
    | some (.processes result) => chatter ++ abortMessage result
    | _ => chatter

/-- What comes to the sink of a line, if its processes write `chatter`. -/
def passage (host : Host σ) (settings : Settings) (line : String) (s : ShellState σ)
    (chatter : List UInt8) : List UInt8 :=
  match Pipeline.ofLine settings.maxCommands line with
  | .error cause => bytesOf (rejection cause ++ "\n")
  | .ok pipeline =>
    opening settings pipeline ++
      match executed? settings line with
      | some executed => executionPassage host settings line s executed chatter
      | none => []

def passages (host : Host (Shared σ)) (settings : Settings) :
    ShellState (Shared σ) → List String → List UInt8
  | _, [] => []
  | s, line :: rest =>
    let after := afterLine host settings s line
    passage host settings line s (after.world.chatter.drop s.world.chatter.length) ++
      passages host settings after rest

end Shell

variable (system : System σ) (timing : Timing σ) {s t : ShellState (Shared σ)} {α β : Type}

/-! ### Steps of the shell -/

def Channel.toSink : Channel → List UInt8 → List UInt8
  | .out, bytes => bytes
  | .err, _ => []

theorem Host.sharing_write (channel : Channel) (bytes : ByteArray) {w : Shared σ}
    (hw : w.live = []) :
    ∃ after, (Host.sharing system timing).write channel bytes w = (.ok (), after) ∧
      w.Gave [] (channel.toSink bytes.data.toList) after := by
  have hstep {w : Shared σ} (hw : w.live = []) :
      w.Gave [] (channel.toSink bytes.data.toList) (Shared.write channel bytes w).2 := by
    cases channel with
    | out => exact ⟨hw, by simp [Shared.write, Shared.text, Channel.toSink], by simp [Shared.write]⟩
    | err => exact .refl hw
  refine ⟨_, Prod.ext ?_ rfl, timing.gave_during hw hstep⟩
  cases channel <;> rfl

theorem Host.sharing_flush {w : Shared σ} (hw : w.live = []) :
    ∃ after, (Host.sharing system timing).flush .out w = (.ok (), after) ∧
      w.Gave [] [] after ∧ after.held = [] := by
  have hstep {w : Shared σ} (hw : w.live = []) : w.Gave [] [] (Shared.flush .out w).2 :=
    ⟨hw, by simp [Shared.flush, Shared.text], by simp [Shared.flush]⟩
  have hflushed (w : Shared σ) : (Shared.flush .out w).2.Grown (Shared.flush .out w).2 :=
    ⟨rfl, [], by simp, by simp⟩
  exact ⟨_, Prod.ext rfl rfl, timing.gave_during hw hstep, ((hflushed _).pass timing).1⟩

namespace ShellM

/-- The action does not fail, and gives this to the sink. -/
def Gives (x : ShellM (Shared σ) α) (s : ShellState (Shared σ)) (chatter text : List UInt8) :
    Prop :=
  Ends (x s) (fun _ after => s.world.Gave chatter text after.world) (fun _ _ => False)

theorem Gives.bind {x : ShellM (Shared σ) α} {f : α → ShellM (Shared σ) β}
    {chatter text chatter' text' : List UInt8} (h : Gives x s chatter text)
    (hf : ∀ value t, x s = .ok value t → t.world.live = [] → Gives (f value) t chatter' text') :
    Gives (x >>= f) s (chatter ++ chatter') (text ++ text') :=
  ends_bind h (fun _ _ hb => hb) fun value t hx hg =>
    (hf value t hx hg.live).mono (fun _ _ hg' => hg.trans hg') fun _ _ hb => hb

theorem Gives.bind_nothing {x : ShellM (Shared σ) α} {f : α → ShellM (Shared σ) β}
    {chatter text : List UInt8} (h : Gives x s chatter text)
    (hf : ∀ value t, x s = .ok value t → t.world.live = [] → Gives (f value) t [] []) :
    Gives (x >>= f) s chatter text := by
  have hall := h.bind hf
  rw [List.append_nil, List.append_nil] at hall
  exact hall

theorem gives_bind_of_ok {x : ShellM (Shared σ) α} {f : α → ShellM (Shared σ) β} {value : α}
    {chatter text chatter' text' : List UInt8} (hx : x s = .ok value t)
    (hg : s.world.Gave chatter text t.world) (hf : Gives (f value) t chatter' text') :
    Gives (x >>= f) s (chatter ++ chatter') (text ++ text') := by
  rw [Gives, bind_of_ok hx]
  exact hf.mono (fun _ _ hg' => hg.trans hg') fun _ _ hb => hb

theorem Gives.ok {x : ShellM (Shared σ) α} {chatter text : List UInt8}
    (h : Gives x s chatter text) :
    ∃ value after, x s = .ok value after ∧ s.world.Gave chatter text after.world := by
  unfold Gives at h
  generalize x s = result at h ⊢
  cases result with
  | ok value after => exact ⟨value, after, rfl, h⟩
  | error fault after => exact h.elim

theorem gives_pure (hs : s.world.live = []) (value : α) :
    Gives (pure value : ShellM (Shared σ) α) s [] [] := Shared.Gave.refl hs

theorem gives_endSession (hs : s.world.live = []) :
    Gives (endSession : ShellM (Shared σ) Unit) s [] [] := Shared.Gave.refl hs

theorem gives_remember (hs : s.world.live = []) (status : Int32) :
    Gives (remember status : ShellM (Shared σ) Unit) s [] [] := Shared.Gave.refl hs

theorem printLine_sharing (channel : Channel) (line : String) (hs : s.world.live = []) :
    ∃ after, printLine (Host.sharing system timing) channel line s =
        .ok () { s with world := after } ∧
      s.world.Gave [] (channel.toSink (bytesOf (line ++ "\n"))) after := by
  obtain ⟨after, hw, hg⟩ := Host.sharing_write system timing channel
    (line ++ "\n").toUTF8 hs
  exact ⟨after, by simp only [printLine, print, onWorld, hw], hg⟩

theorem gives_printLine (channel : Channel) (line : String) (hs : s.world.live = []) :
    Gives (printLine (Host.sharing system timing) channel line) s []
      (channel.toSink (bytesOf (line ++ "\n"))) := by
  obtain ⟨after, hp, hg⟩ := printLine_sharing system timing channel line hs
  rw [Gives, hp]
  exact hg

theorem gives_fail (reason : String) (hs : s.world.live = []) :
    Gives (Builtin.fail (Host.sharing system timing) reason) s [] [] :=
  (gives_printLine system timing .err reason hs).bind fun _ _ _ ht => gives_pure ht _

theorem gives_present (text : String) (hs : s.world.live = []) :
    Gives (Builtin.present (Host.sharing system timing) text) s [] (bytesOf text) := by
  obtain ⟨after, hw, hg⟩ := Host.sharing_write system timing .out
    text.toUTF8 hs
  have hp : Builtin.present (Host.sharing system timing) text s =
      .ok 0 { s with world := after } := by
    have ha : attempt ((Host.sharing system timing).write .out text.toUTF8) s =
        .ok (.ok ()) { s with world := after } := by simp only [attempt, hw]
    exact bind_of_ok ha
  rw [Gives, hp]
  exact hg

theorem gives_changeTo (targets : List String) (hs : s.world.live = []) :
    Gives (Builtin.changeTo (Host.sharing system timing) targets) s [] [] := by
  cases targets with
  | nil => exact gives_pure hs _
  | cons target rest =>
    have hmove : Gives (attempt ((Host.sharing system timing).changeDirectory target)) s [] [] :=
      timing.gave_during hs fun ht => Shared.Gave.ask ht _
    refine hmove.bind fun answer t _ ht => ?_
    cases answer with
    | ok _ => exact gives_pure ht _
    | error fault => exact gives_fail system timing _ ht

theorem gives_builtin (kind : Builtin) (args : List String) (hs : s.world.live = []) :
    Gives (Builtin.run (Host.sharing system timing) kind args) s []
      (bytesOf (kind.output args s.status)) := by
  unfold Builtin.run Builtin.output
  cases kind.grammar.read args with
  | ok values =>
    dsimp only
    cases kind with
    | exit =>
      dsimp only
      rw [bytesOf_empty]
      exact (gives_endSession hs).bind_nothing fun _ _ _ ht => gives_pure ht _
    | cd =>
      dsimp only
      rw [bytesOf_empty]
      exact gives_changeTo system timing values.positionals hs
    | rc =>
      have hrc : Builtin.execute (Host.sharing system timing) .rc values.positionals s =
          Builtin.present (Host.sharing system timing) (toString s.status ++ "\n") s := rfl
      rw [Gives, hrc]
      exact gives_present system timing _ hs
    | dragon => exact gives_present system timing _ hs
  | error stop =>
    cases stop with
    | help text =>
      exact (gives_printLine system timing .out _ hs).bind_nothing fun _ _ _ ht => gives_pure ht _
    | refused cause =>
      dsimp only
      rw [bytesOf_empty]
      exact gives_fail system timing _ hs

theorem gives_reportFrom (stages : List StageEnd) (hs : s.world.live = []) :
    Gives (Shell.reportFrom (Host.sharing system timing) stages) s [] [] := by
  induction stages generalizing s with
  | nil => exact gives_pure hs _
  | cons stage rest ih => exact (gives_printLine system timing .err _ hs).bind fun _ _ _ ht => ih ht

/-- The text of the shell is flushed before the processes run, so it is followed by what they write
and, if they were given up, by the message about that. -/
theorem gives_runProcesses (stages : List Stage) (hs : s.world.live = []) {flushed : Shared σ}
    (hf : (Host.sharing system timing).flush .out s.world = (.ok (), flushed)) :
    ∃ chatter, Gives (Shell.runProcesses (Host.sharing system timing) stages) s chatter
      (chatter ++ Shell.abortMessage
        (Shell.runStages (Host.sharing system timing).toSystem stages flushed).1) := by
  obtain ⟨after, hflush, hgave, hheld⟩ := Host.sharing_flush system timing hs
  obtain rfl : after = flushed := congrArg Prod.snd (hflush.symm.trans hf)
  obtain ⟨chatter, hran⟩ := Host.sharing_runStages system timing stages hgave.live hheld
  let ran := Shell.runStages (Host.sharing system timing).toSystem stages after
  have hout : onWorld ((Host.sharing system timing).flush .out) s =
      .ok () { s with world := after } := by
    simp only [onWorld, hflush]
  have hrun : attempt (Shell.runStages (Host.sharing system timing).toSystem stages)
      { s with world := after } = .ok ran.1 { s with world := ran.2 } := rfl
  -- nothing of a report comes to the sink, so it gets a message only if the run was given up
  have hclosing : Gives (Shell.conclude (Host.sharing system timing) ran.1)
      { s with world := ran.2 } [] (Shell.abortMessage ran.1) := by
    cases ran.1 with
    | ok completion =>
      exact (gives_reportFrom system timing _ hran.live).bind_nothing
        fun _ _ _ hl => gives_remember hl _
    | error cause =>
      exact (gives_printLine system timing .out _ hran.live).bind_nothing
        fun _ _ _ hl => gives_remember hl _
  have hall : Gives (Shell.runProcesses (Host.sharing system timing) stages) s
      ([] ++ (chatter ++ [])) ([] ++ (chatter ++ Shell.abortMessage ran.1)) :=
    gives_bind_of_ok hout hgave (gives_bind_of_ok hrun hran hclosing)
  rw [List.nil_append, List.nil_append, List.append_nil] at hall
  exact ⟨chatter, hall⟩

end ShellM

namespace Shell

theorem announce_sharing (settings : Settings) (pipeline : Pipeline) (hs : s.world.live = []) :
    ∃ after, announce (Host.sharing system timing) settings pipeline s =
        .ok () { s with world := after } ∧
      s.world.Gave [] (opening settings pipeline) after := by
  unfold announce opening
  cases announcement? settings pipeline with
  | some text => exact printLine_sharing system timing .out text hs
  | none => exact ⟨s.world, rfl, .refl hs⟩

theorem gives_runLine (settings : Settings) (line : String) (hs : s.world.live = []) :
    ∃ chatter, Gives (runLine (Host.sharing system timing) settings line) s chatter
      (passage (Host.sharing system timing) settings line s chatter) := by
  unfold passage
  cases hp : Pipeline.ofLine settings.maxCommands line with
  | error cause =>
    rw [runLine_refused hp, refusal_eq]
    exact ⟨[], gives_printLine system timing .out _ hs⟩
  | ok pipeline =>
    obtain ⟨told, htold, hopening⟩ := announce_sharing system timing settings pipeline hs
    cases hx : executed? settings line with
    | none =>
      refine ⟨[], ?_⟩
      rw [runLine_shown hp hx, Gives, htold]
      dsimp only
      rw [List.append_nil]
      exact hopening
    | some executed =>
      obtain rfl : pipeline = executed := by
        rw [(executed?_eq_some_iff.mp hx).1] at hp
        exact (Except.ok.inj hp).symm
      rw [runLine_executed hx]
      dsimp only
      unfold executionPassage
      cases hb : pipeline.builtin? with
      | some kind =>
        rw [carryOut_builtin hb]
        refine ⟨[], gives_bind_of_ok htold hopening ?_⟩
        exact (gives_builtin system timing kind _ hopening.live).bind_nothing
          fun _ _ _ hl => gives_remember hl _
      | none =>
        obtain ⟨flushed, hf, -⟩ := Host.sharing_flush system timing hopening.live
        rw [endOf?_processes hx hb htold hf]
        obtain ⟨chatter, hgives⟩ := gives_runProcesses system timing
          (stagesOf (Host.sharing system timing).toSystem told pipeline)
          (s := { s with world := told }) hopening.live hf
        refine ⟨chatter, gives_bind_of_ok htold hopening ?_⟩
        rw [Gives, carryOut_processes hb]
        exact hgives

/-! ### Sessions -/

variable {settings : Settings} {lines : List String} {last : ShellState (Shared σ)}

theorem runLine_gave (settings : Settings) (line : String) (hs : s.world.live = []) :
    let after := afterLine (Host.sharing system timing) settings s line
    let chatter := after.world.chatter.drop s.world.chatter.length
    runLine (Host.sharing system timing) settings line s = .ok () after ∧
      s.world.Gave chatter (passage (Host.sharing system timing) settings line s chatter)
        after.world := by
  obtain ⟨chatter, hgives⟩ := gives_runLine system timing settings line hs
  obtain ⟨_, t, ht, hg⟩ := hgives.ok
  have hafter : afterLine (Host.sharing system timing) settings s line = t := by
    rw [afterLine, ht]
    rfl
  dsimp only
  rw [hafter, hg.chatter, List.drop_left]
  exact ⟨ht, hg⟩

/-- At the beginning of each line no process of an earlier one is left. -/
theorem afterLines_live (hs : s.world.live = []) :
    (afterLines (Host.sharing system timing) settings s lines).world.live = [] := by
  induction lines generalizing s with
  | nil => exact hs
  | cons line rest ih => exact ih (runLine_gave system timing settings line hs).2.live

theorem Carries.gave {system : System σ} {timing : Timing σ}
    (h : Carries (Host.sharing system timing) settings s lines last) (hs : s.world.live = []) :
    ∃ chatter, s.world.Gave chatter
      (passages (Host.sharing system timing) settings s lines) last.world := by
  induction h with
  | nil s => exact ⟨[], .refl hs⟩
  | @cons s t last line rest _ hr _ ih =>
    obtain ⟨hok, hline⟩ := runLine_gave system timing settings line hs
    have ht : afterLine (Host.sharing system timing) settings s line = t := by
      rw [hok] at hr
      injection hr
    obtain ⟨chatter, hrest⟩ := ih (ht ▸ hline.live)
    rw [← ht] at hrest
    exact ⟨_, hline.trans hrest⟩

theorem carries_of_live (settings : Settings) (lines : List String) (hs : s.world.live = []) :
    ∃ m last, m ≤ lines.length ∧
      Carries (Host.sharing system timing) settings s (lines.take m) last ∧
      (m < lines.length → last.running = false) := by
  rcases carries_or_fails (Host.sharing system timing) settings s lines with
    h | ⟨before, line, rest, last, fault, broken, rfl, hc, hl, hfails⟩
  · exact h
  · obtain ⟨chatter, hg⟩ := hc.gave hs
    rw [(runLine_gave system timing settings line hg.live).1] at hfails
    cases hfails

theorem farewell_sharing (hs : s.world.live = []) :
    ∃ after, farewell (Host.sharing system timing) s = .ok 0 { s with world := after } ∧
      s.world.Gave [] (bytesOf "exiting...\n") after ∧ after.held = [] := by
  obtain ⟨told, hprint, hg⟩ := printLine_sharing system timing .out "exiting..." hs
  obtain ⟨after, hf, hg', hheld⟩ := Host.sharing_flush system timing hg.live
  have hout : onWorld ((Host.sharing system timing).flush .out) { s with world := told } =
      .ok () { s with world := after } := by
    simp only [onWorld, hf]
  refine ⟨after, (bind_of_ok hprint).trans (bind_of_ok hout), ?_, hheld⟩
  have hall := hg.trans hg'
  rw [exiting_newline, List.append_nil, List.append_nil] at hall
  exact hall

/-- However the buffer of the output and the processes take turns, the sink holds at the end of a
session the passages of its lines in their order and then the farewell, and at the beginning of each
line no process is left. -/
theorem loop_ordered (system : System σ) (timing : Timing σ) (settings : Settings) (text : String)
    (world : σ) :
    let host := Host.sharing system timing
    let fresh : ShellState (Shared σ) := { world := { world := world } }
    let lines := LineSource.scriptLines text
    ∃ m last after, m ≤ lines.length ∧ Carries host settings fresh (lines.take m) last ∧
      (m < lines.length → last.running = false) ∧
      loop host settings (LineSource.ofScript text.toUTF8) fresh = .ok 0 after ∧
      after.world.sink =
        passages host settings fresh (lines.take m) ++ bytesOf "exiting...\n" ∧
      after.world.held = [] ∧ after.world.live = [] ∧
      ∀ k ≤ m, (afterLines host settings fresh (lines.take k)).world.live = [] := by
  intro host fresh lines
  have hfresh : fresh.world.live = [] := rfl
  obtain ⟨m, last, hm, hc, hended⟩ := carries_of_live system timing settings lines hfresh
  obtain ⟨chatter, hg⟩ := hc.gave hfresh
  have hloop := loop_of_lines hm hc hended
  generalize promptsAfter settings fresh _ = prompts at hloop
  obtain ⟨after, hfarewell, hg', hheld⟩ := farewell_sharing system timing
    (s := last.withPrompts prompts) hg.live
  have hsink : after.sink =
      passages host settings fresh (lines.take m) ++ bytesOf "exiting...\n" := by
    -- the buffer is empty at the end, so all text of the session is in the sink
    have htext : after.text = fresh.world.text ++ _ := (hg.trans hg').text
    rw [Shared.text, hheld, List.append_nil] at htext
    exact htext
  rw [← LineSource.ofScript_toUTF8, hfarewell] at hloop
  exact ⟨m, last, _, hm, hc, hended, hloop, hsink, hheld, hg'.live,
    fun _ _ => afterLines_live system timing hfresh⟩

end Shell

end PipeShell
