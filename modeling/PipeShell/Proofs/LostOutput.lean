import PipeShell.Proofs.LineFaults
import PipeShell.Screen

/-!
# Output that is lost

The shell runs before a screen whose two streams take so many bytes and no more. An action is known
by what it writes to the output and what it writes to the error channel, in this order: `Writes` says
what comes of the action before any screen, and sequences of actions write one after the other.

Main statement: no line loses output in silence. What fits is written, and if something does not, the
line fails, or it is a lone `rc` or `dragon` that owns up to it.
-/
namespace PipeShell

namespace BoundedStream

variable {stream : BoundedStream} {bytes more : ByteArray}

def Takes (bytes : ByteArray) (stream : BoundedStream) : Prop := (stream.write bytes).1 = .ok ()

def put (bytes : ByteArray) (stream : BoundedStream) : BoundedStream := (stream.write bytes).2

theorem takes_of_endless (h : stream.room = none) : stream.Takes bytes := by
  unfold Takes write
  rw [h]

theorem put_of_endless (h : stream.room = none) :
    stream.put bytes = { stream with written := stream.written ++ bytes } := by
  unfold put write
  rw [h]

theorem takes_iff {room : Nat} (h : stream.room = some room) :
    stream.Takes bytes ↔ bytes.size ≤ room := by
  unfold Takes write
  rw [h]
  by_cases hfit : bytes.size ≤ room
  · simp [hfit]
  · simp [hfit]

theorem put_eq {room : Nat} (h : stream.room = some room) :
    stream.put bytes = { stream with written := stream.written ++ bytes.extract 0 room } := by
  unfold put write
  rw [h]
  by_cases hfit : bytes.size ≤ room
  · have hall : bytes.extract 0 room = bytes := by
      apply ByteArray.ext
      simp only [ByteArray.data_extract]
      exact Array.extract_eq_self_of_le hfit
    simp only [hfit, if_true, hall]
  · simp only [hfit, if_false]

theorem room_put (stream : BoundedStream) (bytes : ByteArray) :
    (stream.put bytes).room = stream.room.map (· - bytes.size) := by
  cases hr : stream.room with
  | none =>
    rw [put_of_endless hr]
    simp only [room, Option.map_eq_none_iff] at hr ⊢
    simp [hr]
  | some n =>
    rw [put_eq hr]
    simp only [room, Option.map_eq_some_iff] at hr ⊢
    obtain ⟨limit, hl, hn⟩ := hr
    simp only [hl, Option.map_some, ByteArray.size_append, ByteArray.size_extract]
    congr 1
    omega

@[simp] theorem takes_empty : stream.Takes ByteArray.empty := by
  cases hr : stream.room with
  | none => exact takes_of_endless hr
  | some n => exact (takes_iff hr).mpr (Nat.zero_le n)

theorem ne_empty_of_not_takes (h : ¬ stream.Takes bytes) : bytes ≠ ByteArray.empty := by
  rintro rfl
  exact h takes_empty

theorem put_of_takes (h : stream.Takes bytes) :
    stream.put bytes = { stream with written := stream.written ++ bytes } := by
  unfold Takes write at h
  unfold put write
  cases hr : stream.room with
  | none => rfl
  | some n =>
    rw [hr] at h
    by_cases hfit : bytes.size ≤ n
    · simp only [hfit, if_true]
    · simp [hfit] at h

@[simp] theorem put_empty : stream.put ByteArray.empty = stream := by
  rw [put_of_takes takes_empty, ByteArray.append_empty]

theorem takes_append :
    stream.Takes (bytes ++ more) ↔ stream.Takes bytes ∧ (stream.put bytes).Takes more := by
  have hroom := stream.room_put bytes
  cases hr : stream.room with
  | none =>
    rw [hr] at hroom
    exact iff_of_true (takes_of_endless hr) ⟨takes_of_endless hr, takes_of_endless hroom⟩
  | some n =>
    rw [hr, Option.map_some] at hroom
    rw [takes_iff hr, takes_iff hr, takes_iff hroom, ByteArray.size_append]
    omega

theorem put_append : stream.put (bytes ++ more) = (stream.put bytes).put more := by
  have hroom := stream.room_put bytes
  cases hr : stream.room with
  | none =>
    rw [hr] at hroom
    rw [put_of_endless hr, put_of_endless hroom, put_of_endless hr, ByteArray.append_assoc]
  | some n =>
    rw [hr] at hroom
    rw [put_eq hr, put_eq hroom, put_eq hr, ByteArray.extract_append, ByteArray.append_assoc,
      Nat.zero_sub]

/-- After bytes that did not all fit, nothing more does. -/
theorem put_append_of_not_takes (h : ¬ stream.Takes bytes) :
    stream.put (bytes ++ more) = stream.put bytes := by
  cases hr : stream.room with
  | none => exact absurd (takes_of_endless hr) h
  | some n =>
    rw [takes_iff hr] at h
    have hnone : n - bytes.size = 0 := by omega
    rw [put_eq hr, put_eq hr, ByteArray.extract_append, hnone]
    simp

def giving (room : Option Nat) (stream : BoundedStream) : BoundedStream :=
  { stream with limit := room.map (stream.written.size + ·) }

@[simp] theorem room_giving (room : Option Nat) : (stream.giving room).room = room := by
  unfold BoundedStream.room giving
  cases room with
  | none => rfl
  | some n => simp

@[simp] theorem written_giving (room : Option Nat) : (stream.giving room).written = stream.written :=
  rfl

theorem written_put_giving (bytes : ByteArray) (room : Nat) :
    ((stream.giving (some room)).put bytes).written =
      stream.written ++ bytes.extract 0 (min room bytes.size) := by
  rw [put_eq (room_giving (some room)), written_giving]
  have hsame : bytes.extract 0 room = bytes.extract 0 (min room bytes.size) := by
    by_cases hfit : bytes.size ≤ room
    · rw [Nat.min_eq_right hfit]
      apply ByteArray.ext
      simp only [ByteArray.data_extract]
      rw [Array.extract_eq_self_of_le hfit]
      exact (Array.extract_eq_self_of_le le_rfl).symm
    · rw [Nat.min_eq_left (by omega)]
  rw [hsame]

end BoundedStream

/-- A screen whose streams refuse what does not fit with faults of their own. -/
def Screen.failing (fault : Channel → Fault) : Terminal Screen where
  write channel bytes screen :=
    ((screen.write channel bytes).1.mapError fun _ => fault channel, (screen.write channel bytes).2)
  flush _ screen := (.ok (), screen)

theorem Screen.terminal_eq_failing : Screen.terminal = Screen.failing fun _ => .streamFull := by
  have hfault (bytes : ByteArray) (stream : BoundedStream) :
      (stream.write bytes).1.mapError (fun _ => Fault.streamFull) = (stream.write bytes).1 := by
    unfold BoundedStream.write
    cases stream.room with
    | none => rfl
    | some room =>
      by_cases hfit : bytes.size ≤ room
      · simp only [hfit, if_true]
        rfl
      · simp only [hfit, if_false]
        rfl
  unfold terminal failing
  congr
  funext channel bytes screen
  cases channel with
  | out => exact Prod.ext (hfault bytes screen.out).symm rfl
  | err => exact Prod.ext (hfault bytes screen.err).symm rfl

def Screen.put (output errors : ByteArray) (screen : Screen) : Screen :=
  ⟨screen.out.put output, screen.err.put errors⟩

theorem Screen.write_out (screen : Screen) (bytes : ByteArray) :
    screen.write .out bytes =
      ((screen.out.write bytes).1, screen.put bytes ByteArray.empty) := by
  simp only [Screen.put, BoundedStream.put_empty]
  rfl

theorem Screen.write_err (screen : Screen) (bytes : ByteArray) :
    screen.write .err bytes =
      ((screen.err.write bytes).1, screen.put ByteArray.empty bytes) := by
  simp only [Screen.put, BoundedStream.put_empty]
  rfl

variable {σ α β : Type}

def ShellState.facing (s : ShellState σ) (screen : Screen) : ShellState (σ × Screen) where
  running := s.running
  status := s.status
  prompts := s.prompts
  world := (s.world, screen)

/-- What a built-in says of output that it lost. -/
def apology (fault : Channel → Fault) : ByteArray := ((fault .out).message ++ "\n").toUTF8

/-- An action writes `output` and then `errors`. Before a screen that takes all of this it ends with
`value` and leaves `t`. Otherwise it fails after as much as fits, or the loss of its output is excused
by an apology. -/
structure Writes (fault : Channel → Fault) (excused : α → ShellState σ → Prop)
    (x : ShellM (σ × Screen) α) (s : ShellState σ) (value : α) (t : ShellState σ)
    (output errors : ByteArray) : Prop where
  whole (screen : Screen) : screen.out.Takes output → screen.err.Takes errors →
    x (s.facing screen) = .ok value (t.facing (screen.put output errors))
  short (screen : Screen) : ¬ screen.out.Takes output →
    (∃ cause last errors', x (s.facing screen) =
      .error cause (ShellState.facing last (screen.put output errors'))) ∨
    ∃ value' last, x (s.facing screen) =
        .ok value' (ShellState.facing last (screen.put output (apology fault))) ∧
      screen.err.Takes (apology fault) ∧ excused value' last
  cut (screen : Screen) : screen.out.Takes output → ¬ screen.err.Takes errors →
    ∃ cause last, x (s.facing screen) =
      .error cause (ShellState.facing last (screen.put output errors))

def unexcused (_ : α) (_ : ShellState σ) : Prop := False

theorem ShellM.bind_of_error {x : ShellM σ α} {f : α → ShellM σ β} {cause : Fault}
    {s t : ShellState σ} (h : x s = .error cause t) : (x >>= f) s = .error cause t := by
  change EStateM.bind x f s = _
  simp only [EStateM.bind, h]

namespace Writes

open ShellM

variable {fault : Channel → Fault} {excused excused' : α → ShellState σ → Prop}
  {finished : β → ShellState σ → Prop} {x : ShellM (σ × Screen) α} {f : α → ShellM (σ × Screen) β}
  {s t u : ShellState σ} {value : α} {result : β} {output output' errors errors' : ByteArray}

theorem mono (h : Writes fault excused x s value t output errors)
    (he : ∀ value last, excused value last → excused' value last) :
    Writes fault excused' x s value t output errors where
  whole := h.whole
  short screen hout := (h.short screen hout).imp_right fun ⟨value, last, hx, htaken, hlost⟩ =>
    ⟨value, last, hx, htaken, he value last hlost⟩
  cut := h.cut

theorem excuse (h : Writes fault unexcused x s value t output errors) :
    Writes fault excused x s value t output errors := h.mono fun _ _ hnone => hnone.elim

theorem silent (h : ∀ screen, x (s.facing screen) = .ok value (t.facing screen)) :
    Writes fault excused x s value t ByteArray.empty ByteArray.empty where
  whole screen _ _ := by
    rw [h screen]
    simp [Screen.put]
  short _ hout := absurd BoundedStream.takes_empty hout
  cut _ _ herr := absurd BoundedStream.takes_empty herr

theorem of_eq {y : ShellM (σ × Screen) α} (h : Writes fault excused y t value u output errors)
    (he : ∀ screen, x (s.facing screen) = y (t.facing screen)) :
    Writes fault excused x s value u output errors where
  whole screen := by
    rw [he screen]
    exact h.whole screen
  short screen := by
    rw [he screen]
    exact h.short screen
  cut screen := by
    rw [he screen]
    exact h.cut screen

theorem followed (h : Writes fault excused x s value t output errors)
    (next : α → ShellState σ → β × ShellState σ)
    (hf : ∀ value last screen,
      f value (ShellState.facing last screen) =
        .ok (next value last).1 ((next value last).2.facing screen))
    (he : ∀ value last, excused value last → finished (next value last).1 (next value last).2) :
    Writes fault finished (x >>= f) s (next value t).1 (next value t).2 output errors where
  whole screen hout herr := by
    rw [bind_of_ok (h.whole screen hout herr), hf]
  short screen hout := by
    rcases h.short screen hout with ⟨cause, last, rest, hx⟩ | ⟨value', last, hx, htaken, hlost⟩
    · exact .inl ⟨cause, last, rest, bind_of_error hx⟩
    · refine .inr ⟨_, _, ?_, htaken, he value' last hlost⟩
      rw [bind_of_ok hx, hf]
  cut screen hout herr := by
    obtain ⟨cause, last, hx⟩ := h.cut screen hout herr
    exact ⟨cause, last, bind_of_error hx⟩

theorem bind (hx : Writes fault unexcused x s value t output errors)
    (hf : Writes fault finished (f value) t result u output' errors')
    (hside : errors = ByteArray.empty ∨ output' = ByteArray.empty) :
    Writes fault finished (x >>= f) s result u (output ++ output') (errors ++ errors') where
  whole screen hout herr := by
    obtain ⟨hout, hout'⟩ := BoundedStream.takes_append.mp hout
    obtain ⟨herr, herr'⟩ := BoundedStream.takes_append.mp herr
    rw [bind_of_ok (hx.whole screen hout herr), hf.whole _ hout' herr']
    simp only [Screen.put, BoundedStream.put_append]
  short screen hlost := by
    by_cases hout : screen.out.Takes output
    · -- only the second action fails here, so the first one had nothing to say about errors
      have hlost' : ¬ (screen.out.put output).Takes output' := fun hout' =>
        hlost (BoundedStream.takes_append.mpr ⟨hout, hout'⟩)
      have hquiet : errors = ByteArray.empty :=
        hside.resolve_right (BoundedStream.ne_empty_of_not_takes hlost')
      subst hquiet
      rw [bind_of_ok (hx.whole screen hout BoundedStream.takes_empty)]
      have hshort := hf.short (screen.put output ByteArray.empty) hlost'
      simp only [Screen.put, BoundedStream.put_empty, ← BoundedStream.put_append] at hshort ⊢
      exact hshort
    · rcases hx.short screen hout with ⟨cause, last, rest, he⟩ | ⟨_, _, _, _, hnone⟩
      · refine .inl ⟨cause, last, rest, ?_⟩
        rw [bind_of_error he]
        simp only [Screen.put, BoundedStream.put_append_of_not_takes hout]
      · exact hnone.elim
  cut screen hall hlost := by
    obtain ⟨hout, hout'⟩ := BoundedStream.takes_append.mp hall
    by_cases herr : screen.err.Takes errors
    · have hlost' : ¬ (screen.err.put errors).Takes errors' := fun herr' =>
        hlost (BoundedStream.takes_append.mpr ⟨herr, herr'⟩)
      obtain ⟨cause, last, he⟩ := hf.cut (screen.put output errors) hout' hlost'
      refine ⟨cause, last, ?_⟩
      rw [bind_of_ok (hx.whole screen hout herr), he]
      simp only [Screen.put, BoundedStream.put_append]
    · -- the first action fails, and the output is complete since the second one has none
      have hquiet : output' = ByteArray.empty :=
        hside.resolve_left (BoundedStream.ne_empty_of_not_takes herr)
      obtain ⟨cause, last, he⟩ := hx.cut screen hout herr
      refine ⟨cause, last, ?_⟩
      rw [bind_of_error he, hquiet, ByteArray.append_empty]
      simp only [Screen.put, BoundedStream.put_append_of_not_takes herr]

end Writes

def System.screened (system : System σ) (fault : Channel → Fault) : Host (σ × Screen) :=
  Host.ofParts system (Screen.failing fault)

namespace System

open ShellM

variable (system : System σ) (fault : Channel → Fault) (s : ShellState σ)

theorem printLine_facing (channel : Channel) (line : String) (screen : Screen) :
    printLine (system.screened fault) channel line (s.facing screen) =
      match screen.write channel (line ++ "\n").toUTF8 with
      | (.ok _, next) => .ok () (s.facing next)
      | (.error _, next) => .error (fault channel) (s.facing next) := by
  simp only [printLine, print, onWorld, screened, Host.ofParts, Screen.failing, ShellState.facing]
  cases screen.write channel (line ++ "\n").toUTF8 with
  | mk answer next =>
    cases answer with
    | ok _ => rfl
    | error _ => rfl

theorem printLine_out (line : String) :
    Writes fault unexcused (printLine (system.screened fault) .out line) s () s
      (line ++ "\n").toUTF8 ByteArray.empty where
  whole screen hout _ := by
    have hok : (screen.out.write (line ++ "\n").toUTF8).1 = .ok () := hout
    rw [printLine_facing, Screen.write_out, hok]
  short screen hout := by
    unfold BoundedStream.Takes at hout
    refine .inl ⟨fault .out, s, ByteArray.empty, ?_⟩
    rw [printLine_facing, Screen.write_out]
    cases he : (screen.out.write (line ++ "\n").toUTF8).1 with
    | ok _ => exact absurd he hout
    | error _ => rfl
  cut _ _ herr := absurd BoundedStream.takes_empty herr

theorem printLine_err (line : String) :
    Writes fault unexcused (printLine (system.screened fault) .err line) s () s
      ByteArray.empty (line ++ "\n").toUTF8 where
  whole screen _ herr := by
    have hok : (screen.err.write (line ++ "\n").toUTF8).1 = .ok () := herr
    rw [printLine_facing, Screen.write_err, hok]
  short _ hout := absurd BoundedStream.takes_empty hout
  cut screen _ herr := by
    unfold BoundedStream.Takes at herr
    refine ⟨fault .err, s, ?_⟩
    rw [printLine_facing, Screen.write_err]
    cases he : (screen.err.write (line ++ "\n").toUTF8).1 with
    | ok _ => exact absurd he herr
    | error _ => rfl

theorem fail_writes (reason : String) :
    Writes fault unexcused (Builtin.fail (system.screened fault) reason) s 1 s
      ByteArray.empty (reason ++ "\n").toUTF8 :=
  (printLine_err system fault s reason).followed (fun _ last => (1, last)) (fun _ _ _ => rfl)
    fun _ _ hnone => hnone

/-- Text that is presented is excused when it is lost: the code is 1 then. -/
theorem present_writes (text : String) :
    Writes fault (fun code _ => code = 1) (Builtin.present (system.screened fault) text) s 0 s
      text.toUTF8 ByteArray.empty := by
  have hattempt (screen : Screen) :
      attempt ((system.screened fault).write .out text.toUTF8) (s.facing screen) =
        .ok ((screen.out.write text.toUTF8).1.mapError fun _ => fault .out)
          (s.facing (screen.put text.toUTF8 ByteArray.empty)) := by
    simp only [attempt, screened, Host.ofParts, Screen.failing, ShellState.facing, Screen.write_out]
  refine ⟨fun screen hout _ => ?_, fun screen hout => ?_, fun screen _ herr => ?_⟩
  · unfold Builtin.present
    rw [bind_of_ok (hattempt screen), show (screen.out.write text.toUTF8).1 = .ok () from hout]
    rfl
  · unfold BoundedStream.Takes at hout
    cases he : (screen.out.write text.toUTF8).1 with
    | ok _ => exact absurd he hout
    | error _ =>
      have hfail := fail_writes system fault s (fault .out).message
      have hpresent : Builtin.present (system.screened fault) text (s.facing screen) =
          Builtin.fail (system.screened fault) (fault .out).message
            (s.facing (screen.put text.toUTF8 ByteArray.empty)) := by
        unfold Builtin.present
        rw [bind_of_ok (hattempt screen), he]
        rfl
      have hput : (screen.put text.toUTF8 ByteArray.empty).put ByteArray.empty (apology fault) =
          screen.put text.toUTF8 (apology fault) := by
        simp only [Screen.put, BoundedStream.put_empty]
      have herr : (screen.put text.toUTF8 ByteArray.empty).err = screen.err :=
        BoundedStream.put_empty
      rw [hpresent]
      by_cases htaken : screen.err.Takes (apology fault)
      · have hwhole := hfail.whole (screen.put text.toUTF8 ByteArray.empty)
          BoundedStream.takes_empty (herr ▸ htaken)
        exact .inr ⟨1, s, hput ▸ hwhole, htaken, rfl⟩
      · obtain ⟨cause, last, hcut⟩ := hfail.cut (screen.put text.toUTF8 ByteArray.empty)
          BoundedStream.takes_empty (herr ▸ htaken)
        exact .inl ⟨cause, last, apology fault, hput ▸ hcut⟩
  · exact absurd BoundedStream.takes_empty herr

theorem changeTo_writes (targets : List String) :
    ∃ code t errors, Writes fault unexcused (Builtin.changeTo (system.screened fault) targets) s
      code t ByteArray.empty errors := by
  cases targets with
  | nil => exact ⟨0, s, _, .silent fun _ => rfl⟩
  | cons target rest =>
    let moved : ShellState σ := { s with world := (system.changeDirectory target s.world).2 }
    have hattempt (screen : Screen) :
        attempt ((system.screened fault).changeDirectory target) (s.facing screen) =
          .ok (system.changeDirectory target s.world).1 (moved.facing screen) := rfl
    cases hr : (system.changeDirectory target s.world).1 with
    | ok _ =>
      refine ⟨0, moved, _, .silent fun screen => ?_⟩
      simp only [Builtin.changeTo]
      rw [bind_of_ok (hattempt screen), hr]
      rfl
    | error cause =>
      refine ⟨1, moved, _, (fail_writes system fault moved
        ("cd: " ++ target ++ ": " ++ cause.message)).of_eq fun screen => ?_⟩
      simp only [Builtin.changeTo]
      rw [bind_of_ok (hattempt screen), hr]

theorem run_writes (kind : Builtin) (args : List String) :
    ∃ code t output errors,
      Writes fault (fun code _ => code = 1 ∧ (kind = .rc ∨ kind = .dragon))
        (Builtin.run (system.screened fault) kind args) s code t output errors := by
  unfold Builtin.run
  cases kind.grammar.read args with
  | ok values =>
    cases kind with
    | exit => exact ⟨0, { s with running := false }, _, _, .silent fun _ => rfl⟩
    | cd =>
      obtain ⟨code, t, errors, hcd⟩ := changeTo_writes system fault s
        values.positionals
      exact ⟨code, t, _, errors, hcd.excuse⟩
    | rc =>
      have hrc := present_writes system fault s
        (toString s.status ++ "\n")
      exact ⟨0, s, _, _, (hrc.mono fun _ _ hcode => ⟨hcode, .inl rfl⟩).of_eq fun _ => rfl⟩
    | dragon =>
      have hdragon := present_writes system fault s
        Builtin.dragonPicture
      exact ⟨0, s, _, _, hdragon.mono fun _ _ hcode => ⟨hcode, .inr rfl⟩⟩
  | error stop =>
    cases stop with
    | help text =>
      have hprint := printLine_out system fault s (Text.trimEnd text)
      exact ⟨0, s, _, _, hprint.followed (fun _ last => (0, last)) (fun _ _ _ => rfl)
        fun _ _ hnone => hnone.elim⟩
    | refused cause => exact ⟨1, s, _, _, (fail_writes system fault s _).excuse⟩

theorem reportFrom_writes (stages : List StageEnd) :
    ∃ errors, Writes fault unexcused (Shell.reportFrom (system.screened fault) stages) s () s
      ByteArray.empty errors := by
  induction stages with
  | nil => exact ⟨_, .silent fun _ => rfl⟩
  | cons stage rest ih =>
    obtain ⟨errors, hrest⟩ := ih
    have hprint := printLine_err system fault s
      (Shell.complaint stage)
    have hboth : Writes fault unexcused (Shell.reportFrom (system.screened fault) (stage :: rest))
        s () s (ByteArray.empty ++ ByteArray.empty)
        ((Shell.complaint stage ++ "\n").toUTF8 ++ errors) := hprint.bind hrest (.inr rfl)
    rw [ByteArray.append_empty] at hboth
    exact ⟨_, hboth⟩

theorem conclude_writes (result : Except Shell.Aborted Completion) :
    ∃ t output errors, Writes fault unexcused (Shell.conclude (system.screened fault) result) s () t
      output errors := by
  cases result with
  | ok completion =>
    obtain ⟨errors, hreport⟩ := reportFrom_writes system fault s
      completion.neverRan
    exact ⟨_, _, errors, hreport.followed
      (fun _ last => ((), { last with status := completion.status }))
      (fun _ _ _ => rfl) fun _ _ hnone => hnone⟩
  | error cause =>
    refine ⟨_, _, _, (printLine_out system fault s _).followed
      (fun _ last => ((), { last with status := 1 })) (fun _ _ _ => ?_) fun _ _ hnone => hnone⟩
    rfl

theorem screened_alike (screen : Screen) :
    System.Alike (fun t w => t = (w, screen)) (system.screened fault).toSystem system where
  openStreams := by rintro _ w rfl; exact ⟨_, _, _, rfl, rfl, rfl⟩
  openPipe onExec := by rintro rfl; exact ⟨_, _, _, rfl, rfl, rfl⟩
  close handle := by rintro rfl; rfl
  start request := by rintro rfl; exact ⟨_, _, _, rfl, rfl, rfl⟩
  wait process := by rintro rfl; exact ⟨_, _, _, rfl, rfl, rfl⟩

theorem runProcesses_writes (stages : List Stage) :
    ∃ t output errors, Writes fault unexcused
      (Shell.runProcesses (system.screened fault) stages) s () t output errors := by
  let ran := Shell.runStages system stages s.world
  obtain ⟨t, output, errors, hconclude⟩ := conclude_writes system fault
    { s with world := ran.2 } ran.1
  refine ⟨t, output, errors, hconclude.of_eq fun screen => ?_⟩
  have hflush : (system.screened fault).flush .out (s.facing screen).world =
      (.ok (), (s.facing screen).world) := rfl
  obtain ⟨answer, _, w, hscreened, hbare, rfl⟩ :=
    (screened_alike system fault screen).runStages stages
      (rfl : (s.world, screen) = (s.world, screen))
  rw [Shell.runProcesses_of_flush hflush]
  have hran : ran = (answer, w) := hbare
  rw [hran]
  have hworld : (s.facing screen).world = (s.world, screen) := rfl
  rw [hworld, hscreened]
  rfl

theorem announce_writes (settings : Settings) (pipeline : Pipeline) :
    ∃ output, Writes fault unexcused (Shell.announce (system.screened fault) settings pipeline) s
      () s output ByteArray.empty := by
  unfold Shell.announce
  cases Shell.announcement? settings pipeline with
  | some text => exact ⟨_, printLine_out system fault s text⟩
  | none => exact ⟨_, .silent fun _ => rfl⟩

/-- A pipeline that is a lone `rc` or `dragon` and leaves status 1. -/
def Excused (pipeline : Pipeline) (status : Int32) : Prop :=
  (pipeline.IsLone "rc" ∨ pipeline.IsLone "dragon") ∧ status = 1

theorem carryOut_writes (pipeline : Pipeline) :
    ∃ t output errors, Writes fault (fun _ last => Excused pipeline last.status)
      (Shell.carryOut (system.screened fault) pipeline) s () t output errors := by
  cases hb : pipeline.builtin? with
  | some kind =>
    obtain ⟨code, t, output, errors, hrun⟩ := run_writes system fault s kind pipeline.first.args
    have hlone := Pipeline.builtin?_eq_some_iff.mp hb
    rw [Shell.carryOut_builtin hb]
    refine ⟨_, output, errors, hrun.followed
      (fun code last => ((), { last with status := code })) (fun _ _ _ => rfl) ?_⟩
    rintro code last ⟨rfl, rfl | rfl⟩
    · exact ⟨.inl hlone, rfl⟩
    · exact ⟨.inr hlone, rfl⟩
  | none =>
    obtain ⟨t, output, errors, hrun⟩ :=
      runProcesses_writes system fault s (Shell.stagesOf system s.world pipeline)
    refine ⟨t, output, errors, hrun.excuse.of_eq fun screen => ?_⟩
    rw [Shell.carryOut_processes hb]
    rfl

theorem runLine_writes (settings : Settings) (line : String) :
    ∃ t output errors,
      Writes fault
        (fun _ last => ∃ pipeline, Shell.executed? settings line = some pipeline ∧
          Excused pipeline last.status)
        (Shell.runLine (system.screened fault) settings line) s () t output errors := by
  cases hp : Pipeline.ofLine settings.maxCommands line with
  | error cause =>
    rw [Shell.runLine_refused hp]
    exact ⟨s, _, _, (printLine_out system fault s _).excuse⟩
  | ok pipeline =>
    cases hx : Shell.executed? settings line with
    | none =>
      obtain ⟨output, hannounce⟩ := announce_writes system fault s
        settings pipeline
      rw [Shell.runLine_shown hp hx]
      exact ⟨s, output, _, hannounce.excuse⟩
    | some executed =>
      obtain ⟨told, hannounce⟩ := announce_writes system fault s
        settings executed
      obtain ⟨t, output, errors, hcarry⟩ := carryOut_writes system fault s executed
      rw [Shell.runLine_executed hx]
      refine ⟨t, told ++ output, ByteArray.empty ++ errors, hannounce.bind ?_ (.inl rfl)⟩
      exact hcarry.mono fun _ _ hlast => ⟨executed, rfl, hlast⟩

end System

def Screen.giving (out err : Option Nat) (screen : Screen) : Screen :=
  ⟨screen.out.giving out, screen.err.giving err⟩

namespace Shell

/-- What becomes of a line before a screen that takes `out` and `err` more bytes, if without an end of
room it writes `output` and `errors` and leaves the shell as `t`. -/
structure Curtailed (fault : Channel → Fault) (settings : Settings) (line : String)
    (screen : Screen) (output errors : ByteArray) (t : ShellState σ) (out err : Nat)
    (result : EStateM.Result Fault (ShellState (σ × Screen)) Unit) : Prop where
  written : (afterwards result).world.2.out.written =
    screen.out.written ++ output.extract 0 (min out output.size)
  whole : output.size ≤ out → errors.size ≤ err → ∃ last : Screen,
    result = .ok () (t.facing last) ∧ last.err.written = screen.err.written ++ errors
  short : out < output.size → (∃ cause last, result = .error cause last) ∨
    ∃ pipeline last, executed? settings line = some pipeline ∧
      (pipeline.IsLone "rc" ∨ pipeline.IsLone "dragon") ∧ result = .ok () last ∧ last.status = 1 ∧
      last.world.2.err.written = screen.err.written ++ ((fault .out).message ++ "\n").toUTF8
  cut : output.size ≤ out → err < errors.size → ∃ cause last, result = .error cause last ∧
    last.world.2.err.written = screen.err.written ++ errors.extract 0 err

theorem curtailed_of_writes {fault : Channel → Fault} {settings : Settings} {line : String}
    {s t : ShellState σ} {output errors : ByteArray} {x : ShellM (σ × Screen) Unit}
    (h : Writes fault (fun _ last => ∃ pipeline, executed? settings line = some pipeline ∧
      System.Excused pipeline last.status) x s () t output errors)
    (screen : Screen) (out err : Nat) :
    Curtailed fault settings line screen output errors t out err
      (x (s.facing (screen.giving (some out) (some err)))) := by
  have hout : ((screen.giving (some out) (some err)).out.Takes output) ↔ output.size ≤ out :=
    BoundedStream.takes_iff (BoundedStream.room_giving _)
  have herr (text : ByteArray) :
      ((screen.giving (some out) (some err)).err.Takes text) ↔ text.size ≤ err :=
    BoundedStream.takes_iff (BoundedStream.room_giving _)
  have hwritten (rest : ByteArray) :
      ((screen.giving (some out) (some err)).put output rest).out.written =
        screen.out.written ++ output.extract 0 (min out output.size) :=
    screen.out.written_put_giving output out
  have hreported (text : ByteArray) :
      ((screen.giving (some out) (some err)).put output text).err.written =
        screen.err.written ++ text.extract 0 (min err text.size) :=
    screen.err.written_put_giving text err
  have hfull {text : ByteArray} (hfit : text.size ≤ err) :
      text.extract 0 (min err text.size) = text := by
    rw [Nat.min_eq_right hfit, ByteArray.extract_zero_size]
  refine ⟨?_, fun hfit hfit' => ?_, fun hlost => ?_, fun hfit hlost => ?_⟩
  · by_cases hfit : output.size ≤ out
    · by_cases hfit' : errors.size ≤ err
      · rw [h.whole _ (hout.mpr hfit) ((herr errors).mpr hfit')]
        exact hwritten errors
      · obtain ⟨cause, last, hcut⟩ := h.cut _ (hout.mpr hfit) fun htaken =>
          hfit' ((herr errors).mp htaken)
        rw [hcut]
        exact hwritten errors
    · rcases h.short _ fun htaken => hfit (hout.mp htaken) with
        ⟨cause, last, rest, he⟩ | ⟨_, last, hok, -, -⟩
      · rw [he]
        exact hwritten rest
      · rw [hok]
        exact hwritten (apology fault)
  · refine ⟨_, h.whole _ (hout.mpr hfit) ((herr errors).mpr hfit'), ?_⟩
    rw [hreported, hfull hfit']
  · rcases h.short _ fun htaken => absurd (hout.mp htaken) (by omega) with
      ⟨cause, last, rest, he⟩ | ⟨_, last, hok, htaken, pipeline, hx, hlone, hstatus⟩
    · exact .inl ⟨cause, _, he⟩
    · refine .inr ⟨pipeline, _, hx, hlone, hok, hstatus, ?_⟩
      have hsaid := hreported (apology fault)
      rw [hfull ((herr (apology fault)).mp htaken)] at hsaid
      exact hsaid
  · obtain ⟨cause, last, hcut⟩ := h.cut _ (hout.mpr hfit) fun htaken =>
      absurd ((herr errors).mp htaken) (by omega)
    refine ⟨cause, _, hcut, ?_⟩
    have hsaid := hreported errors
    rw [Nat.min_eq_left (by omega)] at hsaid
    exact hsaid

/-- Losing the output of a line is never silent. -/
theorem runLine_curtailed (system : System σ) (fault : Channel → Fault) (settings : Settings)
    (line : String) (s : ShellState σ) (screen : Screen) :
    ∃ (t : ShellState σ) (last : Screen) (output errors : ByteArray),
      runLine (system.screened fault) settings line (s.facing (screen.giving none none)) =
        .ok () (t.facing last) ∧
      last.out.written = screen.out.written ++ output ∧
      last.err.written = screen.err.written ++ errors ∧
      ∀ out err, Curtailed fault settings line screen output errors t out err
        (runLine (system.screened fault) settings line
          (s.facing (screen.giving (some out) (some err)))) := by
  obtain ⟨t, output, errors, h⟩ := system.runLine_writes fault s settings line
  have hendless (stream : BoundedStream) : (stream.giving none).room = none :=
    stream.room_giving none
  refine ⟨t, (screen.giving none none).put output errors, output, errors, ?_, ?_, ?_, ?_⟩
  · exact h.whole _ (BoundedStream.takes_of_endless (hendless _))
      (BoundedStream.takes_of_endless (hendless _))
  · change ((screen.out.giving none).put output).written = _
    rw [BoundedStream.put_of_endless (hendless _)]
    rfl
  · change ((screen.err.giving none).put errors).written = _
    rw [BoundedStream.put_of_endless (hendless _)]
    rfl
  exact curtailed_of_writes h screen

end Shell

end PipeShell
