import PipeShell.Machine.System
import PipeShell.Proofs.HostTrace

/-!
# What a machine leaves alone

Whatever its processes do, the directory that the shell on a machine works in is the same until the
shell itself changes it. What decides which programs are started is the same until a process runs.
-/
namespace PipeShell.Machine

variable {machine after : Machine}

theorem readStream_directory {stream : Stream} {limit : Nat} {answer : Except OsError ByteArray}
    (h : machine.readStream stream limit = some (answer, after)) :
    after.directory = machine.directory := by
  cases stream with
  | source id =>
    simp only [readStream] at h
    cases hs : machine.sources[id]? with
    | none => simp_all [eq_comm]
    | some source =>
      simp only [hs, Option.some.injEq, Prod.mk.injEq] at h
      rw [← h.2]
  | pipeReading id =>
    simp only [readStream] at h
    cases hs : machine.pipes[id]? with
    | none => simp_all [eq_comm]
    | some waiting =>
      simp only [hs] at h
      split_ifs at h <;> simp only [Option.some.injEq, Prod.mk.injEq] at h <;> rw [← h.2]
  | _ => simp_all [readStream, eq_comm]

theorem unreadStream_directory (machine : Machine) (stream : Stream) (count : Nat) :
    (machine.unreadStream stream count).directory = machine.directory := by
  cases stream <;> rfl

theorem writeStream_directory (machine : Machine) (stream : Stream) (data : ByteArray) :
    (machine.writeStream stream data).2.directory = machine.directory := by
  unfold writeStream
  split
  · split
    · rfl
    · split <;> rfl
  · rfl
  · rfl
  · rfl

theorem advance_directory (process : Process) (program : Program UInt8) (moved : Bool)
    (machine : Machine) :
    (advance process program moved machine).2.directory = machine.directory := by
  induction program generalizing moved machine with
  | done value => rfl
  | killed signal => rfl
  | read limit next ih =>
    rw [advance]
    split
    · next answer read hr => exact (ih answer true read).trans (readStream_directory hr)
    · rfl
  | unread count next ih =>
    exact (ih true _).trans (unreadStream_directory machine process.input count)
  | measure next ih => exact ih _ true machine
  | write channel data next ih =>
    have hw (stream : Stream) := writeStream_directory machine stream data
    simp only [advance]
    split
    · next written hs => exact (ih true true written).trans (by rw [← hw, hs])
    · next written hs => exact (ih false true written).trans (by rw [← hw, hs])
    · next left written hs => exact (congrArg (fun r => r.2.directory) hs).symm.trans (hw _)
  | look next ih => exact ih _ true machine
  | update change next ih =>
    rw [advance]
    split
    · next tree hc => exact ih _ true { machine with tree := tree }
    · next cause hc => exact ih _ true machine

theorem turn_directory (id : ProcessId) (machine : Machine) :
    (turn id machine).2.directory = machine.directory := by
  unfold turn
  split
  · rfl
  · next process hp =>
    have ha := advance_directory process process.program false machine
    split
    · next fate after he => rw [he] at ha; exact ha
    · next rest moved after he => rw [he] at ha; exact ha

theorem round_directory (machine : Machine) (ids : List ProcessId) :
    (round machine ids).2.directory = machine.directory := by
  induction ids generalizing machine with
  | nil => rfl
  | cons id rest ih => exact (ih _).trans (turn_directory id machine)

theorem runUntilEnd_directory (id : ProcessId) (left : Nat) (machine : Machine) :
    (runUntilEnd id left machine).directory = machine.directory := by
  induction left generalizing machine with
  | zero => rfl
  | succ left ih =>
    have hr := round_directory machine (machine.running.map Prod.fst)
    simp only [runUntilEnd]
    split_ifs
    · rfl
    · exact (ih _).trans hr
    · exact hr

/-- What decides which programs a machine starts. -/
structure Outfit where
  tree : FileTree
  directory : NodeId
  searchPath : Option String
  environment : List (String × String)
  launch : Launcher

def outfit (machine : Machine) : Outfit :=
  ⟨machine.tree, machine.directory, machine.searchPath, machine.environment, machine.launch⟩

theorem openStreams_outfit (machine : Machine) :
    machine.openStreams.2.outfit = machine.outfit := by
  unfold openStreams openFirstInput
  cases machine.firstInput with
  | file path =>
    simp only
    split_ifs
    · rfl
    · cases machine.tree.node machine.directory path with
      | error cause => rfl
      | ok node => cases node <;> rfl
  | _ => rfl

theorem openPipe_outfit (onExec : OnExec) (machine : Machine) :
    (machine.openPipe onExec).2.outfit = machine.outfit := by
  unfold openPipe
  split_ifs <;> rfl

theorem wait_directory (process : ProcessId) (machine : Machine) :
    (machine.wait process).2.directory = machine.directory := by
  unfold wait
  split_ifs
  · exact runUntilEnd_directory process roundLimit machine
  · rfl

theorem start_outfit (request : StartRequest) (machine : Machine) :
    (machine.start request).2.outfit = machine.outfit := by
  unfold start
  split_ifs
  · rfl
  · simp only
    split <;> rfl

/-- The shell's directory is the one its machine says, whatever happens to the files. -/
theorem host_keepsDirectory : host.KeepsDirectory Machine.directory where
  openStreams machine := congrArg Outfit.directory (openStreams_outfit machine)
  openPipe onExec machine := congrArg Outfit.directory (openPipe_outfit onExec machine)
  close handle machine := rfl
  start request machine := congrArg Outfit.directory (start_outfit request machine)
  wait process machine := wait_directory process machine
  refused {path machine fault} h := by
    change (machine.changeDirectory path).1 = _ at h
    change (machine.changeDirectory path).2.directory = _
    unfold changeDirectory at h ⊢
    split_ifs at h ⊢
    · rfl
    · split at h
      · cases h
      · rfl
  write channel bytes machine := rfl
  flush channel machine := rfl

end PipeShell.Machine
