import PipeShell.Proofs.LineFaults

/-!
# The status after a sequence of lines

The lines of a session are carried out one after the other, also after one that failed. While the
terminal does not fail, the status is that of the last line that was executed, and 0 before any was;
`rc` prints it.
-/
namespace PipeShell.Shell

variable {σ : Type}

/-- The shell after a line, whether or not that failed. -/
def afterLine (host : Host σ) (settings : Settings) (s : ShellState σ) (line : String) :
    ShellState σ :=
  afterwards (runLine host settings line s)

def afterLines (host : Host σ) (settings : Settings) (s : ShellState σ) (lines : List String) :
    ShellState σ :=
  lines.foldl (afterLine host settings) s

/-- The terminal does not fail while these lines are carried out. -/
def Untroubled (host : Host σ) (settings : Settings) : ShellState σ → List String → Prop
  | _, [] => True
  | s, line :: rest =>
    faults (lineLog host settings line s) = [] ∧
      Untroubled host settings (afterLine host settings s line) rest

variable {host : Host σ} {settings : Settings} {line : String} {lines : List String}
  {s : ShellState σ}

theorem afterLines_append (first second : List String) :
    afterLines host settings s (first ++ second) =
      afterLines host settings (afterLines host settings s first) second :=
  List.foldl_append

theorem untroubled_append {first second : List String} :
    Untroubled host settings s (first ++ second) ↔ Untroubled host settings s first ∧
      Untroubled host settings (afterLines host settings s first) second := by
  induction first generalizing s with
  | nil => exact (true_and _).symm.to_iff
  | cons line first ih => exact (and_congr_right fun _ => ih).trans (and_assoc).symm

theorem course_of_untroubled (hq : faults (lineLog host settings line s) = []) :
    ∃ t, Course host (fun _ => ()) settings line s.traced t ∧
      ShellState.Alike (fun t w => t.world = w) t (afterLine host settings s line) ∧
      lineLog host settings line s = t.world.log := by
  have he := runLine_course settings line s host.keepsNothing
  unfold afterLine
  generalize runLine host settings line s = result at he ⊢
  cases result with
  | ok _ after => exact he
  | error fault after =>
    obtain ⟨t, hbroke, -, hl⟩ := he
    have hfault : fault ∈ faults (lineLog host settings line s) := hl ▸ hbroke.faults
    rw [hq] at hfault
    cases hfault

theorem endOf?_traced (host : Host σ) (settings : Settings) (line : String) (s : ShellState σ) :
    endOf? host.traced settings line s.traced = endOf? host settings line s :=
  host.traced_alike.endOf? settings line s.traced_alike

theorem leaves_processes {result : Except Aborted Completion}
    (h : endOf? host settings line s = some (.processes result)) :
    (LineEnd.processes result).Leaves (statusAfter result) := by
  cases result with
  | error cause => exact .aborted cause
  | ok completion =>
    obtain ⟨pipeline, w, -, he⟩ := endOf?_ended h
    have hlen := he.length_eq
    have hne : completion.stages ≠ [] := by
      intro hn
      simp [hn, stagesOf, Pipeline.commands] at hlen
    obtain ⟨stage, hl⟩ := List.getLast?_isSome.mpr hne |> Option.isSome_iff_exists.mp
    have hstatus : statusAfter (.ok completion) = stage.ending.code := by
      simp only [statusAfter, Completion.status, hl]
    rw [hstatus]
    exact .last hl stage.ending.reports_code

/-- What a line does to the status: an executed line leaves its own, any other line leaves it. -/
theorem afterLine_status (hq : faults (lineLog host settings line s) = []) :
    (executed? settings line = none → (afterLine host settings s line).status = s.status) ∧
    (executed? settings line ≠ none → ∃ lineEnd, endOf? host settings line s = some lineEnd ∧
      lineEnd.Leaves (afterLine host settings s line).status) := by
  obtain ⟨after, hc, ha, -⟩ := course_of_untroubled hq
  rw [← ha.status]
  cases hc with
  | refused hp hs =>
    have hx : executed? settings line = none := by simp only [executed?, hp]
    exact ⟨fun _ => hs.status, fun hn => absurd hx hn⟩
  | shown hp hx hs => exact ⟨fun _ => hs.status, fun hn => absurd hx hn⟩
  | builtin hx hs he hr hb =>
    rw [endOf?_traced] at he
    exact ⟨fun hn => (Option.some_ne_none _ (hx.symm.trans hn)).elim,
      fun _ => ⟨_, he, .builtin _ _⟩⟩
  | processes hx hp he hs =>
    rw [endOf?_traced] at he
    exact ⟨fun hn => (Option.some_ne_none _ (hx.symm.trans hn)).elim,
      fun _ => ⟨_, he, leaves_processes he⟩⟩

theorem afterLines_status_of_unexecuted (hq : Untroubled host settings s lines)
    (hx : ∀ line ∈ lines, executed? settings line = none) :
    (afterLines host settings s lines).status = s.status := by
  induction lines generalizing s with
  | nil => rfl
  | cons line rest ih =>
    have hfirst := (afterLine_status hq.1).1 (hx line List.mem_cons_self)
    exact (ih hq.2 fun later hl => hx later (List.mem_cons_of_mem _ hl)).trans hfirst

theorem executed?_rc (hl : Token.ofLine line = .ok [.word "rc"]) (hd : settings.dump ≠ .only)
    (hm : 1 ≤ settings.maxCommands) : executed? settings line = some ⟨⟨"rc", []⟩, []⟩ := by
  have hg : Pipeline.groups [.word "rc"] = [["rc"]] := rfl
  have hp : Pipeline.ofLine settings.maxCommands line = .ok ⟨⟨"rc", []⟩, []⟩ := by
    simp only [Pipeline.ofLine, hl, Pipeline.ofTokens, hg]
    simp [Pipeline.commandsOf, Except.map, Nat.not_lt.mpr hm]
  exact executed?_eq_some_iff.mpr ⟨hp, fun h => absurd h hd⟩

theorem said_rc (hx : executed? settings line = some ⟨⟨"rc", []⟩, []⟩)
    (hq : faults (lineLog host settings line s) = []) :
    said (lineLog host settings line s) = announced settings ⟨⟨"rc", []⟩, []⟩ ++
      [.wrote .out (toString s.status.toInt ++ "\n").toUTF8 (.ok ())] := by
  obtain ⟨after, hc, -, hl⟩ := course_of_untroubled hq
  rw [hl] at hq ⊢
  cases hc with
  | refused hp hs => simp [executed?, hp] at hx
  | shown hp hn hs => simp [hn] at hx
  | processes hx' hb he hs =>
    obtain rfl := Option.some.inj (hx.symm.trans hx')
    cases hb
  | @builtin kind args told after code hx' hs he hr hb =>
    have hk := Option.some.inj (hx'.symm.trans hx)
    simp only [Pipeline.mk.injEq, Command.mk.injEq, and_true] at hk
    obtain ⟨hk, rfl⟩ := hk
    obtain rfl : kind = .rc := by cases kind <;> simp_all [Builtin.name]
    have hrun : Builtin.run host.traced .rc [] told =
        Builtin.present host.traced (toString told.status.toInt ++ "\n") told := rfl
    have hp := host.keepsNothing.present_ends (s := told) (toString told.status.toInt ++ "\n")
    rw [← hrun, hr] at hp
    rcases hp with ⟨-, hp⟩ | ⟨-, fault, hp⟩
    · have hsaid := (hs.trans hp).said
      rw [show told.status = s.status from hs.status] at hsaid
      exact hsaid
    · -- the loss of the output is a fault of the terminal
      have hsaid := (hs.trans hp).said
      have hf : fault ∈ faults after.world.log := by
        rw [faults, hsaid]
        exact List.mem_filterMap.mpr
          ⟨.wrote .out (toString told.status.toInt ++ "\n").toUTF8 (.error fault), by simp, rfl⟩
      rw [show faults after.world.log = [] from hq] at hf
      cases hf

/-- While the terminal does not fail, the status after a sequence of lines is 0 if none of them was
executed and else that of the last executed one, and a lone `rc` prints it. -/
theorem afterLines_status (world : σ) (hq : Untroubled host settings { world := world } lines) :
    ((∀ line ∈ lines, executed? settings line = none) →
      (afterLines host settings { world := world } lines).status = 0) ∧
    (∀ before last rest, lines = before ++ last :: rest → executed? settings last ≠ none →
      (∀ later ∈ rest, executed? settings later = none) →
      ∃ lineEnd,
        endOf? host settings last (afterLines host settings { world := world } before) =
          some lineEnd ∧
        lineEnd.Leaves (afterLines host settings { world := world } lines).status) ∧
    (∀ line, Token.ofLine line = .ok [.word "rc"] → settings.dump ≠ .only →
      1 ≤ settings.maxCommands →
      faults (lineLog host settings line (afterLines host settings { world := world } lines)) = [] →
      said (lineLog host settings line (afterLines host settings { world := world } lines)) =
        announced settings ⟨⟨"rc", []⟩, []⟩ ++
          [.wrote .out (toString (afterLines host settings { world := world } lines).status.toInt ++
            "\n").toUTF8 (.ok ())]) := by
  refine ⟨fun hx => afterLines_status_of_unexecuted hq hx, ?_, fun line hl hd hm hf =>
    said_rc (executed?_rc hl hd hm) hf⟩
  rintro before last rest rfl hx hlater
  obtain ⟨-, hlast, hrest⟩ := untroubled_append.mp hq
  obtain ⟨lineEnd, he, hs⟩ := (afterLine_status hlast).2 hx
  refine ⟨lineEnd, he, ?_⟩
  rw [afterLines_append]
  rw [← afterLines_status_of_unexecuted hrest hlater] at hs
  exact hs

/-- A system where every file can be run. The first process ends by the signal for a closed pipe, the
second one exits with 1. -/
def failingSystem : System Execution.Record :=
  let scenario := Execution.Scenario.ofAnswers (fun _ => none) fun stage =>
    .ok (if stage = 0 then 13 else 256)
  { scenario.system with fileInfo := fun _ _ => some ⟨true, 0o755⟩ }

def failingHost : Host (Execution.Record × Screen) := Host.ofParts failingSystem Screen.terminal

/-- The last of two stages exits with 1; a blank line leaves that for `rc` to print. -/
theorem afterLines_status_failing :
    let fresh : ShellState (Execution.Record × Screen) := { world := ({ pending := [0, 1] }, {}) }
    let ends : List StageEnd := [⟨1, "/bin/yes", .signaled 13⟩, ⟨2, "/bin/false", .exited 1⟩]
    (∃ lineEnd, endOf? failingHost {} "/bin/yes | /bin/false"
        (afterLines failingHost {} fresh ["rc"]) = some lineEnd ∧
      lineEnd = .processes (.ok ⟨ends⟩) ∧ lineEnd.Leaves 1) ∧
    said (lineLog failingHost {} "rc"
        (afterLines failingHost {} fresh ["rc", "/bin/yes | /bin/false", ""])) =
      [.wrote .out "1\n".toUTF8 (.ok ())] := by
  intro fresh ends
  have hq : Untroubled failingHost {} fresh ["rc", "/bin/yes | /bin/false", ""] :=
    ⟨by decide +kernel, by decide +kernel, by decide +kernel, trivial⟩
  have hs : (afterLines failingHost {} fresh ["rc", "/bin/yes | /bin/false", ""]).status = 1 := by
    decide +kernel
  have hcame : endOf? failingHost {} "/bin/yes | /bin/false"
      (afterLines failingHost {} fresh ["rc"]) = some (.processes (.ok ⟨ends⟩)) := by
    decide +kernel
  have hx : executed? {} "/bin/yes | /bin/false" ≠ none := by decide +kernel
  have hblank : ∀ later ∈ [""], executed? {} later = none := by decide +kernel
  obtain ⟨-, hlast, hrc⟩ := afterLines_status fresh.world hq
  rw [hs] at hlast hrc
  obtain ⟨lineEnd, he, hleaves⟩ := hlast ["rc"] "/bin/yes | /bin/false" [""] rfl hx hblank
  refine ⟨⟨lineEnd, he, Option.some.inj (he.symm.trans hcame), hleaves⟩, ?_⟩
  exact hrc "rc" (by decide +kernel) (by decide) (by decide) (by decide +kernel)

end PipeShell.Shell
