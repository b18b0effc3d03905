import PipeShell.Machine.Basic

/-!
Running the processes of a machine. Each process in turn goes on until it ends or has to wait;
rounds follow each other until the process asked for has ended or no process moves.
-/
namespace PipeShell.Machine

/-- Where a process got to: its end, or the program that waits, and whether it did anything. -/
inductive Progress where
  | ended (fate : Fate)
  | waits (rest : Program UInt8) (moved : Bool)

def advance (process : Process) : Program UInt8 → Bool → Machine → Progress × Machine
  | .done code, _, machine => (.ended (.exited code), machine)
  | .killed signal, _, machine => (.ended (.signaled signal), machine)
  | .read limit next, moved, machine =>
    match machine.readStream process.input limit with
    | some (answer, machine) => advance process (next answer) true machine
    | none => (.waits (.read limit next) moved, machine)
  | .unread count next, _, machine =>
    advance process next true (machine.unreadStream process.input count)
  | .measure next, _, machine => advance process (next (machine.sizeOf process.input)) true machine
  | .write channel data next, moved, machine =>
    let stream := match channel with
      | .out => process.output
      | .err => process.errors
    match machine.writeStream stream data with
    | (.all, machine) => advance process (next true) true machine
    | (.broken, machine) => advance process (next false) true machine
    | (.rest left, machine) =>
      (.waits (.write channel left next) (moved || left.size < data.size), machine)
  | .look next, _, machine => advance process (next machine.tree) true machine
  | .update change next, _, machine =>
    match change machine.tree with
    | .ok tree => advance process (next (.ok ())) true { machine with tree := tree }
    | .error cause => advance process (next (.error cause)) true machine

/-- Gives one process its turn; tells whether it moved. -/
def turn (id : ProcessId) (machine : Machine) : Bool × Machine :=
  match machine.running.lookup id with
  | none => (false, machine)
  | some process =>
    match advance process process.program false machine with
    | (.ended fate, machine) =>
      (true, { machine with
        running := machine.running.filter fun entry => entry.1 ≠ id
        ended := (id, fate) :: machine.ended })
    | (.waits rest moved, machine) =>
      (moved, { machine with running := machine.running.map fun entry =>
        if entry.1 = id then (id, { entry.2 with program := rest }) else entry })

/-- Gives each of these processes one turn; tells whether any of them moved. -/
def round (machine : Machine) : List ProcessId → Bool × Machine
  | [] => (false, machine)
  | id :: rest =>
    let first := turn id machine
    let others := round first.2 rest
    (first.1 || others.1, others.2)

def roundLimit : Nat := 1 <<< 40

def runUntilEnd (id : ProcessId) : Nat → Machine → Machine
  | 0, machine => machine
  | left + 1, machine =>
    if (machine.ended.lookup id).isSome then machine
    else
      let after := round machine (machine.running.map Prod.fst)
      if after.1 then runUntilEnd id left after.2 else after.2

def stuckSignal : Nat := 9

def isChild (id : ProcessId) (machine : Machine) : Bool :=
  (machine.running.lookup id).isSome || (machine.ended.lookup id).isSome

def wait (id : ProcessId) (machine : Machine) : Except Fault Int32 × Machine :=
  if isChild id machine then
    let after := runUntilEnd id roundLimit machine
    let fate := (after.ended.lookup id).getD (.signaled stuckSignal)
    (.ok fate.word, { after with
      running := after.running.filter fun entry => entry.1 ≠ id
      ended := after.ended.filter fun entry => entry.1 ≠ id })
  else (.error (.os .noChild), machine)

end PipeShell.Machine
