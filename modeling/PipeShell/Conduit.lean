import PipeShell.Host

/-!
The pipes between neighbouring stages. A set owns the ends that no stage has taken yet and hands out
each of them once: stage `i` reads from pipe `i - 1` and writes to pipe `i`.
-/
namespace PipeShell

/-- A pipe with the ends that are still in the set. -/
structure Conduit where
  reading : Option Handle
  writing : Option Handle
  deriving DecidableEq, Repr

namespace Conduit

def ofEnds (ends : NewPipe) : Conduit := ⟨some ends.reading, some ends.writing⟩

def held (pipe : Conduit) : List Handle := pipe.reading.toList ++ pipe.writing.toList

end Conduit

structure Conduits where
  pipes : List Conduit
  deriving DecidableEq, Repr

namespace Conduits

/-- The ends that no stage has taken. -/
def held (set : Conduits) : List Handle := set.pipes.flatMap Conduit.held

def takeReading (set : Conduits) (stage : Nat) : Option Handle × Conduits :=
  match stage with
  | 0 => (none, set)
  | before + 1 =>
    ((set.pipes[before]?).bind Conduit.reading,
      ⟨set.pipes.modify before fun pipe => { pipe with reading := none }⟩)

def takeWriting (set : Conduits) (stage : Nat) : Option Handle × Conduits :=
  ((set.pipes[stage]?).bind Conduit.writing,
    ⟨set.pipes.modify stage fun pipe => { pipe with writing := none }⟩)

variable {σ : Type}

def closeAll (system : System σ) (handles : List Handle) (world : σ) : σ :=
  handles.foldl (fun world handle => system.close handle world) world

/-- Opens `count` pipes after those in `opened`. No end goes along into a program, so that a program
has only those that are installed as its streams. If a pipe cannot be opened, all are closed again. -/
def openFrom (system : System σ) (opened : List Conduit) :
    Nat → σ → Except OsError Conduits × σ
  | 0, world => (.ok ⟨opened⟩, world)
  | count + 1, world =>
    match system.openPipe .close world with
    | (.ok ends, world) => openFrom system (opened ++ [.ofEnds ends]) count world
    | (.error cause, world) => (.error cause, closeAll system (Conduits.mk opened).held world)

def openFor (system : System σ) (stages : Nat) (world : σ) : Except OsError Conduits × σ :=
  openFrom system [] (stages - 1) world

end Conduits

end PipeShell
