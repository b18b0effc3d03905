import PipeShell.Proofs.SessionRun

/-!
# The notes of a session

On a traced host a session of lines either ends with the farewell, and then its notes are those of
the lines that were carried out and those of the farewell, or its last note is a fault of the
terminal. While the terminal does not fail, the session on the host itself ends in the same way.
-/
namespace PipeShell

open ShellM

variable {τ σ δ : Type} {R : τ → σ → Prop}

namespace Host.Alike

variable {fine : Host τ} {coarse : Host σ} {s : ShellState τ} {s' : ShellState σ}

theorem farewell (h : Host.Alike R fine coarse) (hs : s.Alike R s') :
    ShellM.Alike R (Shell.farewell fine s) (Shell.farewell coarse s') := by
  refine alike_bind (h.printLine .out _ hs) fun _ t t' ht => ?_
  exact alike_bind (alike_onWorld ht (h.flush .out ht.world)) fun _ _ _ hu => alike_pure _ hu

theorem withPrompts {s : ShellState τ} {s' : ShellState σ} (hs : s.Alike R s')
    (prompts : List String) : (s.withPrompts prompts).Alike R (s'.withPrompts prompts) :=
  ⟨hs.running, hs.status, rfl, hs.world⟩

theorem loop (h : Host.Alike R fine coarse) (settings : Settings) (answers : LineSource.Answers)
    (hs : s.Alike R s') :
    ShellM.Alike R (Shell.loop fine settings answers s)
      (Shell.loop coarse settings answers s') := by
  induction answers generalizing s s' with
  | nil =>
    cases hr : s.running with
    | true =>
      rw [Shell.loop_nil hr, Shell.loop_nil (hs.running.symm.trans hr), hs.prompts]
      exact h.farewell (withPrompts hs _)
    | false =>
      rw [Shell.loop_ended hr, Shell.loop_ended (hs.running.symm.trans hr)]
      exact h.farewell hs
  | cons answer later ih =>
    cases hr : s.running with
    | false =>
      rw [Shell.loop_ended hr, Shell.loop_ended (hs.running.symm.trans hr)]
      exact h.farewell hs
    | true =>
      have hr' := hs.running.symm.trans hr
      cases answer with
      | error fault =>
        rw [Shell.loop_source_fault hr, Shell.loop_source_fault hr', hs.prompts]
        exact .error fault (withPrompts hs _)
      | ok line =>
        rw [Shell.loop_cons hr, Shell.loop_cons hr', hs.prompts]
        exact alike_bind (h.runLine settings line (withPrompts hs _)) fun _ _ _ ht => ih ht

end Host.Alike

namespace Shell

def sessionLog (host : Host σ) (settings : Settings) (answers : LineSource.Answers)
    (s : ShellState σ) : List Act :=
  (afterwards (loop host.traced settings answers s.traced)).world.log

def linesLog (host : Host σ) (settings : Settings) : ShellState σ → List String → List Act
  | _, [] => []
  | s, line :: rest =>
    lineLog host settings line s ++ linesLog host settings (afterLine host settings s line) rest

def farewellActs : List Act :=
  [.said (.wrote .out "exiting...\n".toUTF8 (.ok ())), .said (.flushed .out (.ok ()))]

def farewellWorld (host : Host σ) (world : σ) : σ :=
  (host.flush .out (host.write .out "exiting...\n".toUTF8 world).2).2

variable {host : Host σ} {settings : Settings} {lines : List String}

theorem printLine_traced (host : Host σ) (channel : Channel) (line : String)
    (s : ShellState (Traced σ)) :
    Ends (printLine host.traced channel line s)
      (fun _ after => after = { s with world :=
        ⟨(host.write channel (line ++ "\n").toUTF8 s.world.world).2,
          s.world.log ++ [.said (.wrote channel (line ++ "\n").toUTF8 (.ok ()))]⟩ })
      (fun fault after => fault ∈ faults after.world.log) := by
  simp only [printLine, print, onWorld, Host.traced, Traced.note]
  cases hw : (host.write channel (line ++ "\n").toUTF8 s.world.world).1 with
  | ok _ => rfl
  | error fault =>
    change fault ∈ faults _
    simp [faults, said, Act.said?, Utterance.fault?]

theorem flush_traced (host : Host σ) (channel : Channel) (s : ShellState (Traced σ)) :
    Ends (onWorld (host.traced.flush channel) s)
      (fun _ after => after = { s with world :=
        ⟨(host.flush channel s.world.world).2,
          s.world.log ++ [.said (.flushed channel (.ok ()))]⟩ })
      (fun fault after => fault ∈ faults after.world.log) := by
  simp only [onWorld, Host.traced, Traced.note]
  cases hf : (host.flush channel s.world.world).1 with
  | ok _ => rfl
  | error fault =>
    change fault ∈ faults _
    simp [faults, said, Act.said?, Utterance.fault?]

theorem exiting_newline : "exiting..." ++ "\n" = "exiting...\n" := by decide

theorem farewell_traced (host : Host σ) (s : ShellState (Traced σ)) :
    Ends (farewell host.traced s)
      (fun code after => code = 0 ∧ after = { s with world :=
        ⟨farewellWorld host s.world.world, s.world.log ++ farewellActs⟩ })
      (fun fault after => fault ∈ faults after.world.log) := by
  refine ends_bind (printLine_traced host .out "exiting..." s) (fun _ _ hb => hb)
    fun _ told _ ht => ?_
  subst ht
  rw [exiting_newline]
  refine ends_bind (flush_traced host .out _) (fun _ _ hb => hb) fun _ after _ ha => ⟨rfl, ?_⟩
  rw [ha, List.append_assoc]
  rfl

/-- A session of lines on a traced host ends with its farewell or with a fault of the terminal. -/
theorem loop_traced (host : Host σ) (settings : Settings) (lines : List String)
    (s : ShellState (Traced σ)) :
    Ends (loop host.traced settings (lines.map .ok) s)
      (fun status after => status = 0 ∧ ∃ m last, m ≤ lines.length ∧
        Carries host.traced settings s (lines.take m) last ∧
        (m < lines.length → last.running = false) ∧
        after = { last with
          prompts := promptsAfter settings s (if last.running then lines.length + 1 else m)
          world := ⟨farewellWorld host last.world.world, last.world.log ++ farewellActs⟩ })
      (fun fault after => fault ∈ faults after.world.log) := by
  rcases carries_or_fails host.traced settings s lines with ⟨m, last, hm, hc, he⟩ |
    ⟨before, line, rest, last, fault, broken, rfl, hc, hl, hf⟩
  · rw [loop_of_lines hm hc he]
    refine (farewell_traced host _).mono (fun status after hd => ?_) fun _ _ hb => hb
    obtain ⟨rfl, rfl⟩ := hd
    exact ⟨rfl, m, last, hm, hc, he, rfl⟩
  · have hends := host.keepsNothing.runLine_ends (s := last) settings line
    rw [hf] at hends
    have hbroke : Broke (fun _ => ()) last fault broken := hends
    rw [List.map_append, List.map_cons, loop_of_line_fault hc hl hf]
    exact hbroke.faults

theorem Carries.untraced {s last : ShellState (Traced σ)} {s' : ShellState σ}
    (h : Carries host.traced settings s lines last) (hs : s.Alike (fun t w => t.world = w) s') :
    ∃ last', Carries host settings s' lines last' ∧ last.Alike (fun t w => t.world = w) last' ∧
      last.world.log = s.world.log ++ linesLog host settings s' lines := by
  induction h generalizing s' with
  | nil s => exact ⟨s', .nil s', hs, by simp [linesLog]⟩
  | @cons s t last line rest hr hline _ ih =>
    -- the notes of the line are the same, whatever was noted before it
    have hfresh : s.Alike (Noted Eq s.world.log []) s'.traced :=
      ⟨hs.running, hs.status, hs.prompts, hs.world, [], by simp, rfl⟩
    have hnoted := ((Host.Alike.refl host).traced s.world.log []).runLine settings line hfresh
    have hplain := host.traced_alike.runLine settings line hs
    rw [hline] at hnoted hplain
    have hlog : t.world.log = s.world.log ++ lineLog host settings line s' := by
      unfold lineLog
      generalize runLine host.traced settings line s'.traced = noted at hnoted ⊢
      cases hnoted with
      | ok _ hn =>
        obtain ⟨-, notes, ht, hw⟩ := hn.world
        rw [ht, afterwards, hw, List.nil_append]
    have hafter : ∃ t', runLine host settings line s' = .ok () t' ∧
        t.Alike (fun t w => t.world = w) t' := by
      generalize runLine host settings line s' = plain at hplain ⊢
      cases hplain with
      | ok _ ht => exact ⟨_, rfl, ht⟩
    obtain ⟨t', hline', ht⟩ := hafter
    obtain ⟨last', hc, hlast, hrest⟩ := ih ht
    refine ⟨last', .cons (hs.running.symm.trans hr) hline' hc, hlast, ?_⟩
    have hstep : afterLine host settings s' line = t' := by rw [afterLine, hline']; rfl
    rw [hrest, hlog, linesLog, hstep, List.append_assoc]

/-- What a session comes to that carries out the first `m` of these lines: `last` is the shell after
the last of them, and `after` is the shell after the farewell. -/
structure Session (host : Host σ) (settings : Settings) (lines : List String) (s : ShellState σ)
    (m : Nat) (last after : ShellState σ) : Prop where
  le : m ≤ lines.length
  carries : Carries host settings s (lines.take m) last
  ended : m < lines.length → last.running = false
  running : after.running = last.running
  status : after.status = last.status
  world : after.world = farewellWorld host last.world
  directory {δ : Type} {read : σ → δ} : host.KeepsDirectory read →
    read after.world = read last.world
  /-- A prompt for each line, and one more if it is the input that ends. -/
  prompts : after.prompts =
    promptsAfter settings s (if last.running then lines.length + 1 else m)
  log : sessionLog host settings (lines.map .ok) s =
    linesLog host settings s (lines.take m) ++ farewellActs

/-- While the terminal does not fail, a session carries out its lines up to the one that ends it,
and says farewell. -/
theorem loop_of_quiet {s : ShellState σ}
    (hq : faults (sessionLog host settings (lines.map .ok) s) = []) :
    ∃ m last after, loop host settings (lines.map .ok) s = .ok 0 after ∧
      Session host settings lines s m last after := by
  have ha := host.traced_alike.loop settings (lines.map .ok) s.traced_alike
  have he := loop_traced host settings lines s.traced
  have hlog : sessionLog host settings (lines.map .ok) s =
      (afterwards (loop host.traced settings (lines.map .ok) s.traced)).world.log := rfl
  rw [hlog] at hq
  generalize loop host.traced settings (lines.map .ok) s.traced = traced at ha he hq hlog
  generalize loop host settings (lines.map .ok) s = result at ha ⊢
  cases ha with
  | error fault hs =>
    have hfault : fault ∈ ([] : List Fault) := hq ▸ he
    cases hfault
  | @ok status traced after hs =>
    obtain ⟨rfl, m, last, hm, hc, hended, rfl⟩ := he
    obtain ⟨last', hc', hlast, hnotes⟩ := hc.untraced s.traced_alike
    have hworld : after.world = farewellWorld host last'.world := by
      rw [← hs.world, ← hlast.world]
    refine ⟨m, last', after, rfl, hm, hc', fun h => hlast.running.symm.trans (hended h), ?_, ?_,
      hworld, fun hd => ?_, ?_, ?_⟩
    · exact hs.running.symm.trans hlast.running
    · exact hs.status.symm.trans hlast.status
    · rw [hworld, farewellWorld, hd.flush, hd.write]
    · rw [← hs.prompts, ← hlast.running]
      rfl
    · rw [hlog]
      change last.world.log ++ farewellActs = _
      rw [hnotes]
      rfl

end Shell

end PipeShell
