import Mathlib.Algebra.GroupWithZero.Nat
import CrsExport.Proofs.Export.Counts
import CrsExport.Proofs.Run.Completed
/-! The figures that close a run. They are the counts of the export, and nothing that is
reported before the end is written by the part of the program that writes them. -/

namespace CrsExport

namespace Export

variable {x : Exporter} {sink : Sink} {range : CodeRange}

end Export

namespace Export

def skipLines (skipped : SkipStats) : List (SkipReason × Nat) :=
  (SkipReason.all.filter fun r => 0 < skipped.count r).map fun r => (r, skipped.count r)

end Export

/- One code for each way in which a code can come out. -/
def mixed : Resolver where
  name := text "mixed"
  resolve c :=
    if c = 1 then .error (.unknownCode c)
    else if c = 2 then .error (.backend c (text "locked"))
    else .ok ⟨c, if c = 3 then text "+proj=utm" else text "+zone=31", none⟩

end CrsExport
