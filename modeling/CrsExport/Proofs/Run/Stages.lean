import CrsExport.Proofs.Export.Failure
import CrsExport.Proofs.FileStore.Writing
import CrsExport.Proofs.InitFile.Record
import CrsExport.Run
/-! The stages of a run. The range is checked, the definitions are read, then the refinements,
and only when all of that has gone well is the output created. The first stage that fails ends
the run, and until the last one no file has changed. -/

namespace CrsExport

variable {db : Database} {sink : Sink} {files : FileStore} {config : Config}

def Config.report (config : Config) (stats : ExportStats) : RunReport where
  output := config.output
  scanned := stats.scanned
  written := stats.written
  skipped := stats.skipped

namespace Initialization

end Initialization

namespace Export

end Export

end CrsExport
