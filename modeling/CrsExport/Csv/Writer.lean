import CrsExport.Csv.Document
import CrsExport.Sink
/-! Writing a document to a sink through a buffer. -/

namespace CrsExport.Csv

def capacity : Nat := 8192

structure Writer where
  held : Array UInt8 := #[]
  outlet : Outlet := {}
  deriving DecidableEq, Repr

namespace Writer

/-- Writes the buffer out. It is kept if that fails. -/
def drain (sink : Sink) (w : Writer) : Option FileFault × Writer :=
  match w.outlet.writeAll sink w.held.toList with
  | (none, outlet) => (none, { held := #[], outlet })
  | (some fault, outlet) => (some fault, { w with outlet })

def hold (piece : Piece) : Writer → Writer
  | ⟨held, outlet⟩ => ⟨held ++ piece, outlet⟩

def store (sink : Sink) (w : Writer) (piece : Piece) : Option FileFault × Writer :=
  if w.held.size + piece.length ≤ capacity then (none, w.hold piece)
  else
    match w.drain sink with
    | (none, w) => (none, w.hold piece)
    | failed => failed

def storeAll (sink : Sink) (w : Writer) : List Piece → Option FileFault × Writer
  | [] => (none, w)
  | piece :: rest =>
    match w.store sink piece with
    | (none, w) => storeAll sink w rest
    | failed => failed

def record (sink : Sink) (w : Writer) (first second : List UInt8) :
    Option FileFault × Writer :=
  w.storeAll sink (recordPieces first second)

def flush (sink : Sink) (w : Writer) : Option FileFault × Writer :=
  match w.drain sink with
  | (none, w) =>
    let (fault, outlet) := w.outlet.flush sink
    (fault, { w with outlet })
  | failed => failed

/-- Gives the writer up: the buffer is written out once more, and the sink flushed, and
failures do not matter any more. -/
def close (sink : Sink) (w : Writer) : Outlet := (w.flush sink).2.outlet

end Writer
end CrsExport.Csv
