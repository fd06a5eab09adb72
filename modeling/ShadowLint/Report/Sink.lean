/-!
# Sinks of limited capacity

A sink takes bytes until it is full.  A piece that does not fit is taken in part and then
refused, and nothing is written after a refused piece; so what a sink holds is always a
beginning of the whole output.
-/

namespace ShadowLint.Report

/-- A place that output is written to. -/
structure Sink where
  /-- The number of bytes that it can hold. -/
  capacity : Nat
  /-- The bytes that it holds. -/
  accepted : List UInt8
  deriving DecidableEq, Repr

namespace Sink

/-- A sink that holds nothing yet. -/
def ofCapacity (capacity : Nat) : Sink := ⟨capacity, []⟩

/-- The number of bytes that the sink still takes. -/
def room (sink : Sink) : Nat := sink.capacity - sink.accepted.length

/-- Writes bytes as far as there is room, and whether all of them were taken. -/
def write (sink : Sink) (bytes : List UInt8) : Sink × Bool :=
  ({ sink with accepted := sink.accepted ++ bytes.take sink.room },
    bytes.length ≤ sink.room)

/-- Writes pieces up to the first that is refused, and whether all of them were taken. -/
def writeAll (sink : Sink) : List (List UInt8) → Sink × Bool
  | [] => (sink, true)
  | piece :: rest =>
      match sink.write piece with
      | (sink, true) => sink.writeAll rest
      | (sink, false) => (sink, false)

end Sink

end ShadowLint.Report
