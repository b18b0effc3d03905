import PipeShell.Proofs.ProcessWords
import PipeShell.Proofs.SessionStatus
import PipeShell.Proofs.WaitWords

/-!
# Where a status comes from

Whatever the terminal does, a status that is not one of the four that the shell gives itself is the
code of a wait word: some line of the session was run as processes, and its last stage gave that
word. Main statement: the ending and the code of every wait word, and what follows from them for the
status after any lines, which is at least -1, at most 255, and negative only by a last stage whose
word describes no end.
-/
namespace PipeShell

variable {σ δ : Type}

/-- The statuses that the shell gives itself: those of built-ins, of runs that were given up and of
stages that never ran. -/
def ownStatuses : List Int32 := [0, 1, 126, 127]

theorem Builtin.Answer.own {host : Host σ} {directory : σ → δ} {kind : Builtin}
    {s after : ShellState (Traced σ)} {code : Int32}
    (h : Builtin.Answer host directory kind s code after) : code ∈ ownStatuses := by
  cases h <;> decide

theorem Ending.code_own {ending : Ending} (h : ending.neverRan = true) :
    ending.code ∈ ownStatuses := by
  cases ending with
  | notFound => decide
  | notExecutable => decide
  | exited code => cases h
  | signaled signal => cases h

theorem ownStatuses_range {status : Int32} (h : status ∈ ownStatuses) :
    0 ≤ status.toInt ∧ status.toInt ≤ 255 := by
  simp only [ownStatuses, List.mem_cons, List.not_mem_nil, or_false] at h
  rcases h with rfl | rfl | rfl | rfl <;> decide

namespace Shell

variable {host : Host σ} {settings : Settings} {line : String} {lines : List String}
  {s : ShellState σ} {word : Int32}

/-- The line is run as processes. The last process that it starts is that of its last command, and
the last word that it waits for is this one, of that process. -/
def LastStageGave (host : Host σ) (settings : Settings) (line : String) (s : ShellState σ)
    (word : Int32) : Prop :=
  ∃ pipeline command request process, RunsProcesses settings line pipeline ∧
    pipeline.commands.getLast? = some command ∧
    request.name = command.name ∧ request.args = command.args ∧
    (lineNotes host settings line s).spawned.getLast? = some (request, process) ∧
    (lineNotes host settings line s).heard.getLast? = some (process, word)

theorem completion_status {completion : Completion}
    (h : endOf? host settings line s = some (.processes (.ok completion))) :
    completion.status ∈ ownStatuses ∨ ∃ word, LastStageGave host settings line s word ∧
      completion.status = (Ending.ofWaitWord word).code := by
  obtain ⟨pipeline, stages, hruns, hcommands, hheard⟩ := lineNotes_heard h
  unfold Completion.status
  split
  · next stageEnd hl =>
    rcases hheard.last hl with hn | ⟨stage, request, process, word, hs, hfor, hp, hw, he⟩
    · exact .inl (Ending.code_own hn)
    · obtain ⟨-, hname, hargs⟩ := hfor
      have hcommand : pipeline.commands.getLast? = some stage.command := by
        rw [← hcommands, List.getLast?_map, hs, Option.map_some]
      refine .inr ⟨word, ?_, congrArg Ending.code he⟩
      exact ⟨pipeline, stage.command, request, process, hruns, hcommand, hname, hargs, hp, hw⟩
  · exact .inl (by decide)

/-- What a line makes of the status, whether or not it fails. -/
theorem afterLine_status_from (host : Host σ) (settings : Settings) (line : String)
    (s : ShellState σ) :
    (afterLine host settings s line).status = s.status ∨
      (afterLine host settings s line).status ∈ ownStatuses ∨
      ∃ word, LastStageGave host settings line s word ∧
        (afterLine host settings s line).status = (Ending.ofWaitWord word).code := by
  have he := runLine_course settings line s host.keepsNothing
  unfold afterLine
  generalize runLine host settings line s = result at he ⊢
  cases result with
  | error fault after =>
    obtain ⟨t, ⟨words, last, hspoke, -⟩, ha, -⟩ := he
    exact .inl (ha.status.symm.trans hspoke.status)
  | ok value after =>
    obtain ⟨t, hc, ha, -⟩ := he
    dsimp only [afterwards]
    rw [← ha.status]
    cases hc with
    | refused hp hs => exact .inl hs.status
    | shown hp hx hs => exact .inl hs.status
    | @builtin kind args told after code hx hs hend hr hb =>
      have hanswer := host.keepsNothing.builtin_answers (s := told) kind args
      rw [hr] at hanswer
      exact .inr (.inl hanswer.own)
    | @processes pipeline result after hx hp hend hs =>
      rw [endOf?_traced] at hend
      cases result with
      | error cause =>
        have hone : (1 : Int32) ∈ ownStatuses := by decide
        exact .inr (.inl hone)
      | ok completion => exact .inr (completion_status hend)

theorem afterLines_status_from (world : σ) (lines : List String) :
    (afterLines host settings { world := world } lines).status ∈ ownStatuses ∨
      ∃ before line rest word, lines = before ++ line :: rest ∧
        LastStageGave host settings line (afterLines host settings { world := world } before)
          word ∧
        (afterLines host settings { world := world } lines).status =
          (Ending.ofWaitWord word).code := by
  induction lines using List.reverseRecOn with
  | nil => exact .inl List.mem_cons_self
  | append_singleton first last ih =>
    have hlast : afterLines host settings { world := world } (first ++ [last]) =
        afterLine host settings (afterLines host settings { world := world } first) last :=
      afterLines_append first [last]
    rw [hlast]
    rcases afterLine_status_from host settings last
        (afterLines host settings { world := world } first) with hs | hs | hs
    · -- the status is the one before the last line
      rw [hs]
      refine ih.imp_right ?_
      rintro ⟨before, line, rest, word, rfl, hgave, hcode⟩
      exact ⟨before, line, rest ++ [last], word, by simp, hgave, hcode⟩
    · exact .inl hs
    · obtain ⟨word, hgave, hcode⟩ := hs
      exact .inr ⟨first, last, [], word, rfl, hgave, hcode⟩

/-- A wait word says by its low seven bits how its process ended. If none of them is set, the process
exited with the byte above the eighth bit, which is the code; if all of them are set, the word
describes no end, and the code is -1; else they are the signal that ended the process, and the code
is 128 above it, so that it tells which. The eighth bit does not matter. Hence the status after any
lines, whatever the terminal does, is at least -1 and at most 255, and it is negative only by a last
stage that gave a word with all seven bits set. -/
theorem afterLines_status_range (host : Host σ) (settings : Settings) (world : σ)
    (lines : List String) :
    let status := (afterLines host settings { world := world } lines).status
    (∀ word : Int32,
      let bits := word &&& 127
      let ending := Ending.ofWaitWord word
      (bits = 0 ∨ 1 ≤ bits.toInt ∧ bits.toInt ≤ 126 ∨ bits = 127) ∧
      (bits = 0 → ending = .exited (word >>> 8 &&& 255) ∧
        0 ≤ ending.code.toInt ∧ ending.code.toInt ≤ 255) ∧
      (1 ≤ bits.toInt → bits.toInt ≤ 126 → ending = .signaled bits ∧
        ending.code.toInt = 128 + bits.toInt) ∧
      (bits = 127 → ending = .exited (-1) ∧ ending.code.toInt = -1) ∧
      Ending.ofWaitWord (word ^^^ 128) = ending ∧
      ∀ signal, ending = .signaled signal →
        128 < ending.code.toInt ∧ signal.toInt = ending.code.toInt - 128) ∧
    -1 ≤ status.toInt ∧ status.toInt ≤ 255 ∧
    (status.toInt < 0 → ∃ before line rest word, lines = before ++ line :: rest ∧
      LastStageGave host settings line (afterLines host settings { world := world } before) word ∧
      word &&& 127 = 127) := by
  intro status
  have hcame : status ∈ ownStatuses ∨ ∃ before line rest word, lines = before ++ line :: rest ∧
      LastStageGave host settings line (afterLines host settings { world := world } before) word ∧
      status = (Ending.ofWaitWord word).code := afterLines_status_from world lines
  refine ⟨fun word => ⟨Ending.wait_word_cases word, fun h => ?_, fun hlow hhigh => ?_, fun h => ?_,
    Ending.ofWaitWord_flip_core word, fun signal h => Ending.signal_of_code h⟩, ?_⟩
  · exact ⟨Ending.ofWaitWord_of_zero h, Ending.code_of_zero h⟩
  · exact ⟨Ending.ofWaitWord_of_signal hlow hhigh, Ending.code_of_signal hlow hhigh⟩
  · exact ⟨Ending.ofWaitWord_of_127 h, Ending.code_of_127 h⟩
  rcases hcame with hown | ⟨before, line, rest, word, hlines, hgave, hcode⟩
  · have hrange := ownStatuses_range hown
    exact ⟨by omega, hrange.2, fun hn => by omega⟩
  · have hrange := Ending.code_ofWaitWord_range word
    rw [← hcode] at hrange
    refine ⟨hrange.1, hrange.2, fun hn => ⟨before, line, rest, word, hlines, hgave, ?_⟩⟩
    rw [hcode] at hn
    exact Ending.and_127_of_code_neg hn

/-- A system where every file can be run. The first process exits with 0, and the word of any other
says that it is only stopped. -/
def stoppingSystem : System Execution.Record :=
  let scenario := Execution.Scenario.ofAnswers (fun _ => none) fun stage =>
    .ok (if stage = 0 then 0 else 0x137F)
  { scenario.system with fileInfo := fun _ _ => some ⟨true, 0o755⟩ }

def stoppingHost : Host (Execution.Record × Screen) := Host.ofParts stoppingSystem Screen.terminal

/-- A last stage that is only stopped leaves the status -1, also after a blank line. -/
theorem afterLines_status_range_stopped :
    let world : Execution.Record × Screen := ({ pending := [0, 1] }, {})
    let lines := ["/bin/fine | /bin/stop", ""]
    (afterLines stoppingHost {} { world := world } lines).status = -1 ∧
      ∃ before line rest word, lines = before ++ line :: rest ∧
        LastStageGave stoppingHost {} line (afterLines stoppingHost {} { world := world } before)
          word ∧
        word &&& 127 = 127 := by
  intro world lines
  have hstatus : (afterLines stoppingHost {} { world := ({ pending := [0, 1] }, {}) }
      ["/bin/fine | /bin/stop", ""]).status = -1 := by decide +kernel
  obtain ⟨-, -, -, hnegative⟩ := afterLines_status_range stoppingHost {} world lines
  refine ⟨hstatus, hnegative ?_⟩
  rw [hstatus]
  decide

end Shell

end PipeShell
