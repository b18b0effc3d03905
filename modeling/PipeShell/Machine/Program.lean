import PipeShell.Host
import PipeShell.Machine.FileTree

/-!
What a process does, as the tree of its requests to the system: each request names what follows for
each answer. Programs compose as a monad; the other combinators change where a program reads from
and writes to without the program taking notice.
-/
namespace PipeShell.Machine

inductive Fate where
  | exited (code : UInt8)
  | signaled (signal : Nat)
  deriving DecidableEq, Repr

namespace Fate

def word : Fate → Int32
  | exited code => Int32.ofNat (code.toNat * 256)
  | signaled signal => Int32.ofNat signal

def status : Fate → Nat
  | exited code => code.toNat
  | signaled signal => 128 + signal

end Fate

inductive Program (α : Type) where
  | done (value : α)
  /-- A signal ends the process. -/
  | killed (signal : Nat)
  /-- Reads up to `limit` bytes of the input; no bytes mean its end. -/
  | read (limit : Nat) (next : Except OsError ByteArray → Program α)
  /-- Gives back the last bytes that were read, where the input is a file. -/
  | unread (count : Nat) (next : Program α)
  /-- Asks for the size of the input; nothing if it is no file. -/
  | measure (next : Option Nat → Program α)
  /-- Writes all bytes. The answer is `false` if there is no one left to read them. -/
  | write (channel : Channel) (data : ByteArray) (next : Bool → Program α)
  | look (next : FileTree → Program α)
  | update (change : FileTree.Change) (next : Except OsError Unit → Program α)

def brokenPipeSignal : Nat := 13

def overtimeSignal : Nat := 24

namespace Program

variable {α β σ : Type}

def bind : Program α → (α → Program β) → Program β
  | done value, f => f value
  | killed signal, _ => killed signal
  | read limit next, f => read limit fun answer => (next answer).bind f
  | unread count next, f => unread count (next.bind f)
  | measure next, f => measure fun size => (next size).bind f
  | write channel data next, f => write channel data fun taken => (next taken).bind f
  | look next, f => look fun tree => (next tree).bind f
  | update change next, f => update change fun answer => (next answer).bind f

instance : Monad Program where
  pure := done
  bind := bind

def loopLimit : Nat := 1 <<< 40

def iterate (step : σ → Program (σ ⊕ α)) : Nat → σ → Program α
  | 0, _ => killed overtimeSignal
  | left + 1, state => do
    match ← step state with
    | .inl next => iterate step left next
    | .inr result => return result

def emit (channel : Channel) (data : ByteArray) : Program Unit :=
  if data.isEmpty then done ()
  else write channel data fun taken => if taken then done () else killed brokenPipeSignal

def put (text : String) : Program Unit := emit .out text.toUTF8

def complain (text : String) : Program Unit := emit .err (text ++ "\n").toUTF8

def chunkSize : Nat := 65536

def readChunk : Program (Except OsError ByteArray) := read chunkSize done

def readAll : Program (Except OsError ByteArray) :=
  iterate (fun soFar => do
    match ← readChunk with
    | .error cause => return .inr (.error cause)
    | .ok chunk => return if chunk.isEmpty then .inr (.ok soFar) else .inl (soFar ++ chunk))
    loopLimit ByteArray.empty

def tree : Program FileTree := look done

def change (step : FileTree.Change) : Program (Except OsError Unit) := update step done

/-! ### Other surroundings -/

inductive Route where
  | channel (channel : Channel)
  /-- To the end of a file. -/
  | file (id : NodeId)
  | nowhere
  deriving DecidableEq, Repr

def reroute (route : Channel → Route) : Program α → Program α
  | done value => done value
  | killed signal => killed signal
  | read limit next => read limit fun answer => (next answer).reroute route
  | unread count next => unread count (next.reroute route)
  | measure next => measure fun size => (next size).reroute route
  | write channel data next =>
    match route channel with
    | .channel other => write other data fun taken => (next taken).reroute route
    | .file id => update (FileTree.appendTo id data) fun _ => (next true).reroute route
    | .nowhere => (next true).reroute route
  | look next => look fun tree => (next tree).reroute route
  | update change next => update change fun answer => (next answer).reroute route

/-- A program that reads the given bytes, from the offset on, in place of its input. -/
def feed (data : Except OsError ByteArray) (offset : Nat) : Program α → Program α
  | done value => done value
  | killed signal => killed signal
  | read limit next =>
    match data with
    | .error cause => (next (.error cause)).feed data offset
    | .ok bytes =>
      let chunk := bytes.extract offset (offset + limit)
      (next (.ok chunk)).feed data (offset + chunk.size)
  | unread count next => next.feed data (offset - count)
  | measure next => (next (data.toOption.map ByteArray.size)).feed data offset
  | write channel bytes next => write channel bytes fun taken => (next taken).feed data offset
  | look next => look fun tree => (next tree).feed data offset
  | update change next => update change fun answer => (next answer).feed data offset

/-- A program that keeps its output for itself, with what it put out before. -/
def capture (soFar : ByteArray) : Program α → Program (ByteArray × α)
  | done value => done (soFar, value)
  | killed signal => killed signal
  | read limit next => read limit fun answer => (next answer).capture soFar
  | unread count next => unread count (next.capture soFar)
  | measure next => measure fun size => (next size).capture soFar
  | write .out data next => (next true).capture (soFar ++ data)
  | write .err data next => write .err data fun taken => (next taken).capture soFar
  | look next => look fun tree => (next tree).capture soFar
  | update change next => update change fun answer => (next answer).capture soFar

/-- A program run as a process of its own: its end is a value for the one who started it. -/
def contain : Program UInt8 → Program Fate
  | done code => done (.exited code)
  | killed signal => done (.signaled signal)
  | read limit next => read limit fun answer => (next answer).contain
  | unread count next => unread count next.contain
  | measure next => measure fun size => (next size).contain
  | write channel data next => write channel data fun taken => (next taken).contain
  | look next => look fun tree => (next tree).contain
  | update change next => update change fun answer => (next answer).contain

def unheard : Program α → Program α
  | done value => done value
  | killed signal => killed signal
  | read limit next => read limit fun answer => (next answer).unheard
  | unread count next => unread count next.unheard
  | measure next => measure fun size => (next size).unheard
  | write .out _ next => (next false).unheard
  | write .err data next => write .err data fun taken => (next taken).unheard
  | look next => look fun tree => (next tree).unheard
  | update change next => update change fun answer => (next answer).unheard

/-- Runs a program until it puts something out, which is given on with the rest of the program. At
its end there is nothing to give on. -/
def supply (use : ByteArray → Program α → Program β) : Program α → Program β
  | done value => use ByteArray.empty (done value)
  | killed signal => killed signal
  | read limit next => read limit fun answer => (next answer).supply use
  | unread count next => unread count (next.supply use)
  | measure next => measure fun size => (next size).supply use
  | write .out data next => use data (next true)
  | write .err data next => write .err data fun taken => (next taken).supply use
  | look next => look fun tree => (next tree).supply use
  | update change next => update change fun answer => (next answer).supply use

/-- Two programs with a pipe between them, which holds `pending`. The second one sets the pace, and
what is left of the first one when it ends has no reader. -/
def connect (pending : ByteArray) (source : Program α) : Program β → Program (α × β)
  | done value => do
    let other ← source.unheard
    return (other, value)
  | killed signal => killed signal
  | read limit next =>
    if pending.isEmpty then
      source.supply fun data rest =>
        connect (data.extract limit data.size) rest (next (.ok (data.extract 0 limit)))
    else
      connect (pending.extract limit pending.size) source (next (.ok (pending.extract 0 limit)))
  | unread _ next => connect pending source next
  | measure next => connect pending source (next none)
  | write channel data next => write channel data fun taken => connect pending source (next taken)
  | look next => look fun tree => connect pending source (next tree)
  | update change next => update change fun answer => connect pending source (next answer)

end Program

/-- How a program is started: the name it is told, its arguments and its surroundings. -/
structure Call where
  name : String
  args : List String
  directory : NodeId
  environment : List (String × String)
  process : Nat

abbrev Tool := Call → Program UInt8

abbrev Launcher := String → Call → FileTree → Except OsError (Program UInt8)

end PipeShell.Machine
