import CrsExport.Export.Scan
import CrsExport.Initialization
/-! Whole runs: the settings are checked and everything loaded before the output is
created. -/

namespace CrsExport

structure RunReport where
  output : Text
  scanned : Nat
  written : Nat
  skipped : SkipStats
  deriving DecidableEq, Repr

inductive RunError where
  | range (error : ExportError)
  | resolver (error : InitializationError)
  | refinements (error : InitializationError)
  | output (path : Text) (error : ExportError)
  deriving DecidableEq, Repr

namespace RunError

def chain : RunError → List Text
  | range e => text "Invalid scan range" :: e.message :: e.source?.toList
  | resolver e => text "Failed to initialize resolver" :: e.message :: e.sources
  | refinements e => text "Failed to initialize refinements" :: e.message :: e.sources
  | output path e =>
    (text "Failed to export to " ++ path) :: e.message :: e.source?.toList

def message (e : RunError) : Text := (text ": ").intercalate e.chain

end RunError

namespace Export

/-- The file is created, or emptied, before anything is written to it, and keeps what the sink
has taken when a write fails. -/
def toPath (files : FileStore) (x : Exporter) (sink : Sink) (range : CodeRange) (path : Text) :
    Except ExportError ExportStats × List Log.Event × FileStore :=
  match files.placeToWrite path with
  | .error fault => (.error (.createOutput path fault), [], files)
  | .ok place =>
    let outcome := toSink x sink range
    (outcome.result, outcome.events, files.put place (.file outcome.outlet.accepted.toList))

def run (files : FileStore) (resolver : Resolver) (sink : Sink) (start stop : Code)
    (path : Text) : Except ExportError ExportStats × List Log.Event × FileStore :=
  match CodeRange.ofBounds start stop with
  | .error e => (.error e, [], files)
  | .ok range => toPath files { resolver } sink range path

def summaryEvents (stats : ExportStats) : List Log.Event :=
  .summary stats.scanned stats.written ::
    if stats.skipped.total = 0 then []
    else .skipTotal stats.skipped.total ::
      (SkipReason.all.filter fun r => 0 < stats.skipped.count r).map fun r =>
        .skipCount r (stats.skipped.count r)

end Export

structure RunOutcome where
  result : Except RunError RunReport
  events : List Log.Event
  files : FileStore

def runExport (db : Database) (sink : Sink) (files : FileStore) (config : Config) : RunOutcome :=
  match CodeRange.ofBounds config.start config.stop with
  | .error e => { result := .error (.range e), events := [], files }
  | .ok range =>
    match Initialization.resolver db files config with
    | (events, .error e) => { result := .error (.resolver e), events, files }
    | (events, .ok resolver) =>
      match Initialization.refiner files config.refinements with
      | (more, .error e) =>
        { result := .error (.refinements e), events := events ++ more, files }
      | (more, .ok refiner) =>
        let before := events ++ more ++ [.exporting range config.output]
        match Export.toPath files { resolver, refiner } sink range config.output with
        | (.error e, scan, files) =>
          { result := .error (.output config.output e), events := before ++ scan, files }
        | (.ok stats, scan, files) =>
          { result := .ok { output := config.output, scanned := stats.scanned,
                            written := stats.written, skipped := stats.skipped }
            events := before ++ scan ++ Export.summaryEvents stats, files }

end CrsExport
