import PipeShell.Host

/-!
A terminal kept in memory: each channel holds the bytes written to it and may have a limit. A write
past the limit fails after the bytes that still fit.
-/
namespace PipeShell

/-- The bytes written to a channel, and how many it takes in all. -/
structure BoundedStream where
  limit : Option Nat := none
  written : ByteArray := ByteArray.empty

namespace BoundedStream

/-- How many more bytes fit; nothing means any number. -/
def room (stream : BoundedStream) : Option Nat := stream.limit.map (· - stream.written.size)

/-- Writes as much as fits, and fails if that is not all. -/
def write (bytes : ByteArray) (stream : BoundedStream) : Except Fault Unit × BoundedStream :=
  match stream.room with
  | none => (.ok (), { stream with written := stream.written ++ bytes })
  | some room =>
    if bytes.size ≤ room then (.ok (), { stream with written := stream.written ++ bytes })
    else (.error .streamFull, { stream with written := stream.written ++ bytes.extract 0 room })

end BoundedStream

structure Screen where
  out : BoundedStream := {}
  err : BoundedStream := {}

namespace Screen

def write (channel : Channel) (bytes : ByteArray) (screen : Screen) : Except Fault Unit × Screen :=
  match channel with
  | .out => let r := screen.out.write bytes; (r.1, { screen with out := r.2 })
  | .err => let r := screen.err.write bytes; (r.1, { screen with err := r.2 })

/-- A screen holds nothing back, so there is nothing to flush. -/
def terminal : Terminal Screen where
  write := write
  flush _ screen := (.ok (), screen)

end Screen

end PipeShell
