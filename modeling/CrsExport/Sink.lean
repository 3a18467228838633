import CrsExport.File
/-! Sinks: what bytes are written to. A sink answers each write call by taking some of the
bytes or by failing, and may interrupt calls before it answers. -/

namespace CrsExport

inductive Reply where
  | accept (count : Nat)
  | refuse (fault : FileFault)
  deriving DecidableEq, Repr

/-- How a sink behaves. Calls are counted from one, interrupted ones included. As many calls in
a row as `interruptions` says are interrupted, the call with the given number being the first of
them, and the one after them is answered by the bytes taken before it and the bytes offered. -/
structure Sink where
  interruptions : Nat → Nat
  reply : (call accepted offered : Nat) → Reply
  flush : (call : Nat) → Option FileFault

namespace Sink

def perfect : Sink where
  interruptions _ := 0
  reply _ _ offered := .accept offered
  flush _ := none

end Sink

inductive Answer where
  | interrupted
  | took (count : Nat)
  | refused (fault : FileFault)
  deriving DecidableEq, Repr

structure WriteCall where
  offered : Nat
  answer : Answer
  deriving DecidableEq, Repr

namespace WriteCall

def taken? (c : WriteCall) : Option Nat :=
  match c.answer with
  | .took count => some count
  | .interrupted | .refused _ => none

end WriteCall

structure Outlet where
  accepted : Array UInt8 := #[]
  calls : Array WriteCall := #[]
  flushes : Nat := 0
  deriving DecidableEq, Repr

namespace Outlet

def writes (o : Outlet) : Array (Nat × Option Nat) :=
  o.calls.map fun c => (c.offered, c.taken?)

def interrupted (o : Outlet) (times offered : Nat) : Outlet :=
  { o with calls := o.calls ++ Array.replicate times ⟨offered, .interrupted⟩ }

def refused (o : Outlet) (offered : Nat) (fault : FileFault) : Outlet :=
  { o with calls := o.calls.push ⟨offered, .refused fault⟩ }

def took (o : Outlet) (bytes : List UInt8) (count : Nat) : Outlet :=
  { o with accepted := o.accepted ++ bytes.take count
           calls := o.calls.push ⟨bytes.length, .took count⟩ }

/-- Writes all bytes: interrupted calls are made again, and what a call has not taken is
offered in the next one. A call that takes nothing is a failure. -/
def writeAll (sink : Sink) (bytes : List UInt8) (o : Outlet) : Option FileFault × Outlet :=
  if _h : bytes = [] then (none, o)
  else
    let o := o.interrupted (sink.interruptions (o.calls.size + 1)) bytes.length
    match sink.reply (o.calls.size + 1) o.accepted.size bytes.length with
    | .refuse fault => (some fault, o.refused bytes.length fault)
    | .accept count =>
      let count := min count bytes.length
      if count = 0 then (some .writeZero, o.took bytes 0)
      else writeAll sink (bytes.drop count) (o.took bytes count)
termination_by bytes.length
decreasing_by
  have := List.length_pos_iff.mpr _h
  simp only [List.length_drop]
  omega

def flush (sink : Sink) (o : Outlet) : Option FileFault × Outlet :=
  (sink.flush (o.flushes + 1), { o with flushes := o.flushes + 1 })

end Outlet
end CrsExport
