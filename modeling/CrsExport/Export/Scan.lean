import CrsExport.Csv.Writer
import CrsExport.Export.Error
import CrsExport.Log.Event
import CrsExport.Refiner
import CrsExport.Resolver.Basic
/-! The export: every code of a range is resolved in ascending order, and the ones with a
definition become the rows of a document. -/

namespace CrsExport

structure ExportRecord where
  code : Code
  definition : Text
  deriving DecidableEq, Repr

structure ExportStats where
  scanned : Nat := 0
  written : Nat := 0
  skipped : SkipStats := {}
  deriving DecidableEq, Repr

structure Exporter where
  resolver : Resolver
  refiner : Option Refiner := none

namespace Exporter

/-- The row of a code. A refined definition is checked again, under the code that was asked
for. -/
def record (x : Exporter) (code : Code) : Except ResolveError ExportRecord :=
  match x.resolver.resolve code with
  | .error e => .error e
  | .ok crs =>
    match x.resolver.toProjString crs with
    | .error e => .error e
    | .ok definition =>
      match x.refiner with
      | none => .ok ⟨code, definition⟩
      | some refiner =>
        (Definition.normalize code (refiner.refine definition code)).map (⟨code, ·⟩)

def substitutions (x : Exporter) (code : Code) : Nat :=
  match x.refiner, (x.resolver.resolve code).bind x.resolver.toProjString with
  | some refiner, .ok _ => refiner.substitutionsFor code
  | _, _ => 0

def substitutionEvents (x : Exporter) (code : Code) : List Log.Event :=
  match x.substitutions code with
  | 0 => []
  | n => [.substituting n code]

end Exporter

namespace Export

def headers : Text × Text := (text "EPSG Code", text "PROJ Definition")

def progressInterval : Nat := 100000

def rowFields (r : ExportRecord) : List UInt8 × List UInt8 :=
  (Text.utf8 r.code.toText, Text.utf8 r.definition)

def headerFields : List UInt8 × List UInt8 := (Text.utf8 headers.1, Text.utf8 headers.2)

structure Scan where
  writer : Csv.Writer := {}
  stats : ExportStats := {}
  events : Array Log.Event := #[]

def progressEvents (range : CodeRange) (code : Code) (stats : ExportStats) :
    List Log.Event :=
  if (code - range.start + 1).toNat % progressInterval = 0 then
    [.progress stats.scanned range.count stats.written]
  else []

def scanCode (x : Exporter) (sink : Sink) (range : CodeRange) (code : Code) :
    Scan → Option FileFault × Scan
  | ⟨writer, stats, events⟩ =>
    let stats := { stats with scanned := stats.scanned + 1 }
    let events := events ++ x.substitutionEvents code
    match x.record code with
    | .ok row =>
      match writer.record sink (rowFields row).1 (rowFields row).2 with
      | (some fault, writer) => (some fault, ⟨writer, stats, events⟩)
      | (none, writer) =>
        let stats := { stats with written := stats.written + 1 }
        (none, ⟨writer, stats, events ++ progressEvents range code stats⟩)
    | .error e =>
      let stats := { stats with skipped := stats.skipped.increment e.skipReason }
      (none, ⟨writer, stats, events.push (.skipping e) ++ progressEvents range code stats⟩)

def scanCodes (x : Exporter) (sink : Sink) (range : CodeRange) :
    (count : Nat) → (code : Code) → Scan → Option FileFault × Scan
  | 0, _, s => (none, s)
  | count + 1, code, s =>
    match scanCode x sink range code s with
    | (none, s) => scanCodes x sink range count (code + 1) s
    | failed => failed

structure Outcome where
  result : Except ExportError ExportStats
  events : List Log.Event
  outlet : Outlet

def scanRange (x : Exporter) (sink : Sink) (range : CodeRange) :
    Option FileFault × Scan :=
  match ({} : Csv.Writer).record sink headerFields.1 headerFields.2 with
  | (some fault, writer) => (some fault, { writer })
  | (none, writer) =>
    scanCodes x sink range range.count range.start
      { writer, events := #[.scanning range x.resolver.name] }

def toSink (x : Exporter) (sink : Sink) (range : CodeRange) : Outcome :=
  match scanRange x sink range with
  | (some fault, s) =>
    { result := .error (.csv fault), events := s.events.toList
      outlet := s.writer.close sink }
  | (none, s) =>
    match s.writer.flush sink with
    | (some fault, writer) =>
      { result := .error (.file fault), events := s.events.toList
        outlet := writer.close sink }
    | (none, writer) =>
      { result := .ok s.stats, events := s.events.toList, outlet := writer.close sink }

def rows (x : Exporter) (range : CodeRange) : List ExportRecord :=
  range.codes.filterMap fun c => (x.record c).toOption

def document (x : Exporter) (range : CodeRange) : List UInt8 :=
  Csv.document (headerFields :: (rows x range).map rowFields)

end Export
end CrsExport
