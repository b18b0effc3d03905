import PipeShell.Proofs.BuiltinArguments
import PipeShell.Proofs.SessionTrace

/-!
# Where `cd` leads

On a host whose paths denote directories, a lone `cd` moves the shell to what its target denotes, or
says why it cannot and leaves the shell where it was. Main statement: this is all that the line does,
and an argument list with more words, or with one that asks for help, moves nothing.
-/
namespace PipeShell

variable {σ δ : Type}

/-- A path denotes a directory or is refused, `directory` is where the shell was last moved to, and
writing text changes neither. -/
structure Host.Moves (host : Host σ) (directory : σ → δ) (denoted : σ → String → Except Fault δ) :
    Prop extends host.KeepsDirectory directory where
  moved {path : String} {w : σ} {place : δ} : denoted w path = .ok place →
    (host.changeDirectory path w).1 = .ok () ∧ directory (host.changeDirectory path w).2 = place
  kept {path : String} {w : σ} {fault : Fault} : denoted w path = .error fault →
    (host.changeDirectory path w).1 = .error fault
  write_denoted (channel : Channel) (bytes : ByteArray) (w : σ) :
    denoted (host.write channel bytes w).2 = denoted w

namespace Machine

def denoted (machine : Machine) (path : String) : Except Fault NodeId :=
  if hasNul path then .error .nulInPath
  else (machine.tree.directoryAt machine.directory path).mapError .os

theorem changeDirectory_eq (machine : Machine) (path : String) :
    machine.changeDirectory path =
      match machine.denoted path with
      | .ok place => (.ok (), { machine with directory := place })
      | .error fault => (.error fault, machine) := by
  unfold changeDirectory denoted
  by_cases hn : hasNul path = true
  · simp only [if_pos hn]
  · simp only [if_neg hn]
    cases machine.tree.directoryAt machine.directory path <;> rfl

theorem host_moves : host.Moves Machine.directory denoted where
  toKeepsDirectory := host_keepsDirectory
  moved {path machine place} h := by
    have hc := changeDirectory_eq machine path
    rw [h] at hc
    exact ⟨congrArg Prod.fst hc, congrArg (fun answer => answer.2.directory) hc⟩
  kept {path machine fault} h := by
    have hc := changeDirectory_eq machine path
    rw [h] at hc
    exact congrArg Prod.fst hc
  write_denoted channel bytes machine := rfl

end Machine

namespace Shell

open ShellM

variable {host : Host σ} {directory : σ → δ} {denoted : σ → String → Except Fault δ}
  {settings : Settings} {line : String} {s : ShellState σ}

/-- What a line leaves behind that does not touch the session: where the shell is, its status, and all
that was said on the way. -/
structure Leaves (host : Host σ) (settings : Settings) (directory : σ → δ) (line : String)
    (s : ShellState σ) (place : δ) (status : Int32) (words : List Utterance) : Prop where
  running : (afterLine host settings s line).running = s.running
  directory : directory (afterLine host settings s line).world = place
  status : (afterLine host settings s line).status = status
  said : said (lineLog host settings line s) = words

/-- A built-in that stands alone is announced and run, and its code is the status: `told` and `after`
are the states in between, on the traced host. -/
structure RunsAlone (host : Host σ) (settings : Settings) (line : String) (s : ShellState σ)
    (kind : Builtin) (args : List String) (told : ShellState (Traced σ)) (code : Int32)
    (after : ShellState (Traced σ)) : Prop where
  begun : announce host.traced settings ⟨⟨kind.name, args⟩, []⟩ s.traced = .ok () told
  ran : Builtin.run host.traced kind args told = .ok code after
  alike : ShellState.Alike (fun t w => t.world = w) { after with status := code }
    (afterLine host settings s line)
  log : lineLog host settings line s = after.world.log

theorem runsAlone_of_untroubled {kind : Builtin} {args : List String}
    (hx : executed? settings line = some ⟨⟨kind.name, args⟩, []⟩)
    (hq : faults (lineLog host settings line s) = []) :
    ∃ told code after, RunsAlone host settings line s kind args told code after := by
  have hends := host.keepsNothing.runLine_ends (s := s.traced) settings line
  have halike := runLine_traced host settings line s
  have hlog : lineLog host settings line s =
      (afterwards (runLine host.traced settings line s.traced)).world.log := rfl
  cases hr : runLine host.traced settings line s.traced with
  | error fault broken =>
    rw [hr] at hends hlog
    have hbroke : Broke (fun _ => ()) s.traced fault broken := hends
    have hfault := hbroke.faults
    rw [show broken.world.log = lineLog host settings line s from hlog.symm, hq] at hfault
    cases hfault
  | ok _ last =>
    have hline := hr
    rw [runLine_builtin hx] at hline
    obtain ⟨_, told, hannounced, hcarried⟩ := ok_of_bind hline
    obtain ⟨code, after, hran, hs⟩ := ok_of_bind hcarried
    obtain ⟨-, rfl⟩ := EStateM.Result.ok.inj hs
    have hafter := halike.afterwards
    rw [hr] at hafter hlog
    exact ⟨told, code, after, hannounced, hran, hafter, hlog⟩

section RunsAlone

variable {kind : Builtin} {args : List String} {told t after : ShellState (Traced σ)} {code : Int32}

theorem RunsAlone.spoke (h : RunsAlone host settings line s kind args told code after)
    (hd : host.KeepsDirectory directory) :
    Spoke directory s.traced (announced settings ⟨⟨kind.name, args⟩, []⟩) told := by
  have hends := hd.announce_ends (s := s.traced) settings ⟨⟨kind.name, args⟩, []⟩
  rwa [h.begun] at hends

theorem RunsAlone.denoted_eq (h : RunsAlone host settings line s kind args told code after)
    (hm : host.Moves directory denoted) : denoted told.world.world = denoted s.world := by
  have ha := h.begun
  unfold announce at ha
  cases hn : announcement? settings ⟨⟨kind.name, args⟩, []⟩ with
  | none =>
    rw [hn] at ha
    obtain ⟨-, rfl⟩ := EStateM.Result.ok.inj ha
    rfl
  | some text =>
    have hends := printLine_traced host .out text s.traced
    rw [hn] at ha
    have hprinted : printLine host.traced .out text s.traced = .ok () told := ha
    rw [hprinted] at hends
    obtain rfl := hends
    exact hm.write_denoted .out _ s.world

theorem RunsAlone.leaves (h : RunsAlone host settings line s kind args told code after)
    {words : List Utterance} (hd : host.KeepsDirectory directory)
    (hs : Spoke directory told words after) :
    Leaves host settings directory line s (directory s.world) code
      (announced settings ⟨⟨kind.name, args⟩, []⟩ ++ words) := by
  have hspoke := (h.spoke hd).trans hs
  refine ⟨h.alike.running.symm.trans hspoke.running, ?_, h.alike.status.symm, ?_⟩
  · rw [← h.alike.world]
    exact hspoke.directory
  · rw [h.log]
    exact hspoke.said

/-- What is reported as a failure is said on the error channel, and the code is 1. -/
theorem RunsAlone.leaves_failure (h : RunsAlone host settings line s kind args told code after)
    {reason : String} (hd : host.KeepsDirectory directory) (ht : Spoke directory told [] t)
    (hf : Builtin.fail host.traced reason t = .ok code after) :
    Leaves host settings directory line s (directory s.world) 1
      (announced settings ⟨⟨kind.name, args⟩, []⟩ ++
        [.wrote .err (reason ++ "\n").toUTF8 (.ok ())]) := by
  have hends := hd.fail_ends (s := t) reason
  rw [hf] at hends
  obtain ⟨rfl, hs⟩ := hends
  exact h.leaves hd (ht.trans hs)

end RunsAlone

section ChangeTo

variable {told : ShellState (Traced σ)} {target : String}

theorem changeTo_asked (host : Host σ) (target : String) (told : ShellState (Traced σ)) :
    attempt (host.traced.changeDirectory target) told =
      .ok (host.changeDirectory target told.world.world).1 { told with
        world := ⟨(host.changeDirectory target told.world.world).2,
          told.world.log ++ [.moved target (host.changeDirectory target told.world.world).1]⟩ } :=
  rfl

theorem changeTo_moved (ha : (host.changeDirectory target told.world.world).1 = .ok ()) :
    Builtin.changeTo host.traced [target] told = .ok 0 { told with
      world := ⟨(host.changeDirectory target told.world.world).2,
        told.world.log ++ [.moved target (.ok ())]⟩ } := by
  have hasked := changeTo_asked host target told
  rw [ha] at hasked
  exact bind_of_ok hasked

theorem changeTo_kept {fault : Fault} (hm : host.Moves directory denoted)
    (hp : denoted told.world.world target = .error fault) :
    ∃ t, Spoke directory told [] t ∧ Builtin.changeTo host.traced [target] told =
      Builtin.fail host.traced ("cd: " ++ target ++ ": " ++ fault.message) t := by
  have ha := hm.kept hp
  have hstays := hm.refused ha
  have hasked := changeTo_asked host target told
  rw [ha] at hasked
  refine ⟨_, ?_, bind_of_ok hasked⟩
  exact ⟨rfl, rfl, rfl, hstays, by simp [PipeShell.said, Act.said?]⟩

end ChangeTo

section Cd

variable {args : List String} {before after : ShellState (Traced σ)} {code : Int32}

theorem executed?_cd (hp : Pipeline.ofLine settings.maxCommands line = .ok ⟨⟨"cd", args⟩, []⟩)
    (hd : settings.dump ≠ .only) :
    executed? settings line = some ⟨⟨Builtin.cd.name, args⟩, []⟩ :=
  executed?_eq_some_iff.mpr ⟨hp, fun h => absurd h hd⟩

theorem RunsAlone.leaves_moved {target : String} {place : δ}
    (h : RunsAlone host settings line s .cd [target] before code after)
    (hm : host.Moves directory denoted) (ht : target ≠ "help")
    (hd : target.startsWith "-" = false) (hplace : denoted s.world target = .ok place) :
    Leaves host settings directory line s place 0 (announced settings ⟨⟨"cd", [target]⟩, []⟩) := by
  have hran := h.ran
  rw [Builtin.run_cd ht hd] at hran
  rw [← h.denoted_eq hm] at hplace
  obtain ⟨hok, hat⟩ := hm.moved hplace
  obtain ⟨rfl, rfl⟩ := EStateM.Result.ok.inj (hran.symm.trans (changeTo_moved hok))
  have hspoke := h.spoke hm.toKeepsDirectory
  refine ⟨h.alike.running.symm.trans hspoke.running, ?_, h.alike.status.symm, ?_⟩
  · rw [← h.alike.world]
    exact hat
  · have hsilent : PipeShell.said (before.world.log ++ [.moved target (.ok ())]) =
        PipeShell.said before.world.log := by
      simp [PipeShell.said, Act.said?]
    rw [h.log]
    exact hsilent.trans hspoke.said

theorem RunsAlone.leaves_kept {target : String} {fault : Fault}
    (h : RunsAlone host settings line s .cd [target] before code after)
    (hm : host.Moves directory denoted) (ht : target ≠ "help")
    (hd : target.startsWith "-" = false) (hfault : denoted s.world target = .error fault) :
    Leaves host settings directory line s (directory s.world) 1
      (announced settings ⟨⟨"cd", [target]⟩, []⟩ ++
        [.wrote .err ("cd: " ++ target ++ ": " ++ fault.message ++ "\n").toUTF8 (.ok ())]) := by
  have hran := h.ran
  rw [Builtin.run_cd ht hd] at hran
  rw [← h.denoted_eq hm] at hfault
  obtain ⟨t, hs, hfail⟩ := changeTo_kept hm hfault
  exact h.leaves_failure hm.toKeepsDirectory hs (hfail.symm.trans hran)

variable (h : RunsAlone host settings line s .cd args before code after)
  (hm : host.KeepsDirectory directory)
  (hd : ∀ argument ∈ args, argument.startsWith "-" = false)

include h hm hd

theorem RunsAlone.leaves_surplus {first second : String} {later : List String}
    (hw : OptionGrammar.withoutHelp args = first :: second :: later) :
    Leaves host settings directory line s (directory s.world) 1
      (announced settings ⟨⟨"cd", args⟩, []⟩ ++
        [.wrote .err (Text.trimEnd ("Unrecognized argument: " ++ second ++ "\n") ++ "\n").toUTF8
          (.ok ())]) := by
  have hran := h.ran
  rw [Builtin.run_cd_surplus hd hw] at hran
  exact h.leaves_failure hm (Spoke.refl before) hran

theorem RunsAlone.leaves_help (hh : "help" ∈ args)
    (hw : (OptionGrammar.withoutHelp args).length ≤ 1) :
    Leaves host settings directory line s (directory s.world) 0
      (announced settings ⟨⟨"cd", args⟩, []⟩ ++
        [.wrote .out (Text.trimEnd Builtin.cd.helpText ++ "\n").toUTF8 (.ok ())]) := by
  have hran := h.ran
  rw [Builtin.run_cd_help hd hh hw] at hran
  obtain ⟨_, t, hprint, hcode⟩ := ok_of_bind hran
  obtain ⟨rfl, rfl⟩ := EStateM.Result.ok.inj hcode
  have hends := hm.spoke_printLine (s := before) .out (Text.trimEnd Builtin.cd.helpText)
  rw [hprint] at hends
  exact h.leaves hm hends

end Cd

/-- A lone `cd` moves the shell to the directory that its target denotes and says no more than it is
asked to print, or it says why it cannot and moves nothing. Nor does it move with a second word, which
is refused, or where it is asked for help. -/
theorem afterLine_cd {args : List String} (hm : host.Moves directory denoted)
    (hp : Pipeline.ofLine settings.maxCommands line = .ok ⟨⟨"cd", args⟩, []⟩)
    (hd : settings.dump ≠ .only) (ha : ∀ argument ∈ args, argument.startsWith "-" = false)
    (hq : faults (lineLog host settings line s) = []) :
    let told := announced settings ⟨⟨"cd", args⟩, []⟩
    let leaves := Leaves host settings directory line s
    (∀ target place, args = [target] → target ≠ "help" → denoted s.world target = .ok place →
      leaves place 0 told) ∧
    (∀ target fault, args = [target] → target ≠ "help" → denoted s.world target = .error fault →
      leaves (directory s.world) 1 (told ++
        [.wrote .err ("cd: " ++ target ++ ": " ++ fault.message ++ "\n").toUTF8 (.ok ())])) ∧
    (∀ first second later, OptionGrammar.withoutHelp args = first :: second :: later →
      leaves (directory s.world) 1 (told ++
        [.wrote .err (Text.trimEnd ("Unrecognized argument: " ++ second ++ "\n") ++ "\n").toUTF8
          (.ok ())])) ∧
    ("help" ∈ args → (OptionGrammar.withoutHelp args).length ≤ 1 →
      leaves (directory s.world) 0 (told ++
        [.wrote .out (Text.trimEnd Builtin.cd.helpText ++ "\n").toUTF8 (.ok ())])) := by
  intro told leaves
  obtain ⟨before, code, after, h⟩ := runsAlone_of_untroubled (executed?_cd hp hd) hq
  refine ⟨?_, ?_, fun first second later hw => h.leaves_surplus hm.toKeepsDirectory ha hw,
    fun hh hw => h.leaves_help hm.toKeepsDirectory ha hh hw⟩
  · rintro target place rfl ht hplace
    exact h.leaves_moved hm ht (ha target List.mem_cons_self) hplace
  · rintro target fault rfl ht hfault
    exact h.leaves_kept hm ht (ha target List.mem_cons_self) hfault

theorem lineLog_cd {target : String}
    (hp : Pipeline.ofLine settings.maxCommands line = .ok ⟨⟨"cd", [target]⟩, []⟩)
    (hd : settings.dump = .off) (ht : target ≠ "help") (hdash : target.startsWith "-" = false)
    (ha : (host.changeDirectory target s.world).1 = .ok ()) :
    lineLog host settings line s = [.moved target (.ok ())] := by
  have hline : runLine host.traced settings line = (do
      let status ← Builtin.changeTo host.traced [target]
      remember status) := by
    rw [runLine_builtin (executed?_cd hp (by simp [hd])), announce_quiet (.inl hd),
      Builtin.run_cd ht hdash]
    rfl
  have hchanged : Builtin.changeTo host.traced [target] s.traced = _ := changeTo_moved ha
  rw [lineLog, hline, bind_of_ok hchanged]
  rfl

/-- A machine with the directories `help` and `sub`, and a link to `sub`. -/
def crossroads : Machine where
  tree := ⟨#[.directory Machine.FileTree.root [("help", 1), ("sub", 2), ("short", 3)],
    .directory Machine.FileTree.root [], .directory Machine.FileTree.root [], .link "sub"]⟩
  directory := Machine.FileTree.root
  searchPath := none
  launch _ _ _ := .error .tryAgain

/-- The link leads to its directory, and with a word more than one directory nothing moves. -/
theorem afterLine_cd_link :
    Leaves Machine.host {} Machine.directory "cd short" { world := crossroads } 2 0 [] ∧
    Leaves Machine.host {} Machine.directory "cd sub help /" { world := crossroads }
      Machine.FileTree.root 1 [.wrote .err "Unrecognized argument: /\n".toUTF8 (.ok ())] := by
  have hshort : Pipeline.ofLine ({} : Settings).maxCommands "cd short" =
      .ok ⟨⟨"cd", ["short"]⟩, []⟩ := by rfl
  have hthree : Pipeline.ofLine ({} : Settings).maxCommands "cd sub help /" =
      .ok ⟨⟨"cd", ["sub", "help", "/"]⟩, []⟩ := by rfl
  have hplace : crossroads.denoted "short" = .ok 2 := by cbv
  have hquiet : faults (lineLog Machine.host {} "cd short" { world := crossroads }) = [] := by
    rw [lineLog_cd hshort rfl (by decide) (by simp) (Machine.host_moves.moved hplace).1]
    rfl
  obtain ⟨hmoved, -, -, -⟩ := afterLine_cd Machine.host_moves hshort (by decide) (by simp) hquiet
  obtain ⟨-, -, hsurplus, -⟩ := afterLine_cd Machine.host_moves hthree (by decide) (by simp)
    (s := { world := crossroads }) (by decide +kernel)
  exact ⟨hmoved "short" 2 rfl (by decide) hplace, hsurplus "sub" "/" [] (by decide)⟩

/-- There is a directory `help`, and yet `cd help` stays and gives help, and `cd sub help` is not
refused; and a `cd` that is printed before it runs puts that on the output. -/
theorem cd_help_stays :
    crossroads.denoted "help" = .ok 1 ∧
    Pipeline.ofLine ({} : Settings).maxCommands "cd help" = .ok ⟨⟨"cd", ["help"]⟩, []⟩ ∧
    Leaves Machine.host {} Machine.directory "cd help" { world := crossroads }
      Machine.FileTree.root 0
      [.wrote .out (Text.trimEnd Builtin.cd.helpText ++ "\n").toUTF8 (.ok ())] ∧
    Pipeline.ofLine ({} : Settings).maxCommands "cd sub help" = .ok ⟨⟨"cd", ["sub", "help"]⟩, []⟩ ∧
    Leaves Machine.host {} Machine.directory "cd sub help" { world := crossroads }
      Machine.FileTree.root 0
      [.wrote .out (Text.trimEnd Builtin.cd.helpText ++ "\n").toUTF8 (.ok ())] ∧
    Pipeline.ofLine ({ dump := .beforeRunning } : Settings).maxCommands "cd sub /" =
      .ok ⟨⟨"cd", ["sub", "/"]⟩, []⟩ ∧
    Leaves Machine.host { dump := .beforeRunning } Machine.directory "cd sub /"
      { world := crossroads } Machine.FileTree.root 1
      [.wrote .out "PARSED COMMAND LINE - TOTAL COMMANDS 1\n<1> cd [sub /]\n".toUTF8 (.ok ()),
        .wrote .err "Unrecognized argument: /\n".toUTF8 (.ok ())] := by
  have hone : Pipeline.ofLine ({} : Settings).maxCommands "cd help" =
      .ok ⟨⟨"cd", ["help"]⟩, []⟩ := by rfl
  have htwo : Pipeline.ofLine ({} : Settings).maxCommands "cd sub help" =
      .ok ⟨⟨"cd", ["sub", "help"]⟩, []⟩ := by rfl
  have hshown : Pipeline.ofLine ({ dump := .beforeRunning } : Settings).maxCommands "cd sub /" =
      .ok ⟨⟨"cd", ["sub", "/"]⟩, []⟩ := by rfl
  have hquiet : faults (lineLog Machine.host {} "cd help" { world := crossroads }) = [] := by
    decide +kernel
  have hquiet' : faults (lineLog Machine.host {} "cd sub help" { world := crossroads }) = [] := by
    decide +kernel
  have hspoken : faults (lineLog Machine.host { dump := .beforeRunning } "cd sub /"
      { world := crossroads }) = [] := by
    decide +kernel
  obtain ⟨_, _, _, h⟩ := runsAlone_of_untroubled (executed?_cd hone (by decide)) hquiet
  obtain ⟨_, _, _, h'⟩ := runsAlone_of_untroubled (executed?_cd htwo (by decide)) hquiet'
  obtain ⟨_, _, _, h''⟩ := runsAlone_of_untroubled (executed?_cd hshown (by decide)) hspoken
  have htold : announced { dump := .beforeRunning } ⟨⟨"cd", ["sub", "/"]⟩, []⟩ =
      [.wrote .out "PARSED COMMAND LINE - TOTAL COMMANDS 1\n<1> cd [sub /]\n".toUTF8 (.ok ())] := by
    have htext : Pipeline.dump ⟨⟨"cd", ["sub", "/"]⟩, []⟩ ++ "\n" =
        "PARSED COMMAND LINE - TOTAL COMMANDS 1\n<1> cd [sub /]\n" := by decide +kernel
    rw [← htext]
    rfl
  have hrefused : OptionGrammar.withoutHelp ["sub", "/"] = ["sub", "/"] := by decide
  have hshow := h''.leaves_surplus Machine.host_keepsDirectory (by simp) hrefused
  rw [htold] at hshow
  exact ⟨by cbv,
    hone, h.leaves_help Machine.host_keepsDirectory (by simp) (by simp) (by decide),
    htwo, h'.leaves_help Machine.host_keepsDirectory (by simp) (by simp) (by decide),
    hshown, hshow⟩

end Shell

end PipeShell
