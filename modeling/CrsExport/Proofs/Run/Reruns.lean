import CrsExport.Proofs.Run.Stages
/-! Running again. A run reads no more than its definitions and its rules. As long as the output
is another file than these, what it held before makes no difference to the run, and neither do
earlier runs with the same settings, not even those in which a write has failed. -/

namespace CrsExport

variable {db : Database} {sink : Sink} {files before : FileStore} {config : Config}
  {range : CodeRange} {x : Exporter} {place : Place}

end CrsExport
