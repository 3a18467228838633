import CrsExport.Proofs.Csv.ReadBack
import CrsExport.Proofs.Export.Delivery
import CrsExport.Proofs.Export.Record
/-! Reading an export back: the titles and, for each code of the range that has a definition,
the code and the definition. No byte of a definition can move the border of a field or of a
record. -/

namespace CrsExport.Export

theorem obligingTotals {sink : Sink} (h : sink.Obliging) (x : Exporter) (range : CodeRange) :
    (toSink x sink range).result = .ok (totals x range) := by
  obtain ⟨stats, ok⟩ := obligingSucceeds h x range
  rw [ok, (succeededWhole ok).1]

theorem rowTexts (x : Exporter) (range : CodeRange) :
    (rows x range).map (fun r => [r.code.toText, r.definition]) =
      range.codes.filterMap fun c =>
        (x.record c).toOption.map fun r => [c.toText, r.definition] := by
  rw [rows, List.map_filterMap]
  congr 1
  funext c
  cases found : x.record c with
  | error e => rfl
  | ok r =>
    have code := (Exporter.recordFrom found).1
    simp [Except.toOption, code]

theorem documentReadsBack (x : Exporter) (range : CodeRange) :
    Csv.readTexts? (document x range) =
      some ([headers.1, headers.2] :: range.codes.filterMap fun c =>
        (x.record c).toOption.map fun r => [c.toText, r.definition]) := by
  have read := Csv.readTextsDocument
    (headers :: (rows x range).map fun r => (r.code.toText, r.definition))
  rw [List.map_cons, List.map_cons, List.map_map, List.map_map] at read
  rw [← rowTexts]
  exact read

theorem exportReadsBack (x : Exporter) (sink : Sink) (range : CodeRange)
    (obliging : sink.Obliging) :
    let run := toSink x sink range
    (∃ stats, run.result = .ok stats) ∧
      Csv.readTexts? run.outlet.accepted.toList =
        some ([text "EPSG Code", text "PROJ Definition"] :: range.codes.filterMap fun c =>
          (x.record c).toOption.map fun r => [c.toText, r.definition]) ∧
      range.codes.map UInt32.toNat =
        List.range' range.start.toNat (range.stop.toNat - range.start.toNat) := by
  intro run
  obtain ⟨stats, ok⟩ := obligingSucceeds obliging x range
  obtain ⟨_, accepted, _⟩ := succeededWhole ok
  have accepted : run.outlet.accepted.toList = document x range := accepted
  refine ⟨⟨stats, ok⟩, ?_, CodeRange.codesToNat range⟩
  rw [accepted]
  exact documentReadsBack x range

/- Every system bears the same code, and the definitions hold a separator, quotes and line ends
or nothing at all. -/
def quoting : Resolver where
  name := text "quoting"
  resolve c :=
    if c = 2 then .error (.unknownCode c)
    else .ok ⟨7, if c = 1 then text "1,5 \"m\"\r\n" else [], none⟩
  toProjString crs := .ok crs.proj4

theorem quotingReadsBack : Sink.perfect.Obliging ∧
    Csv.readTexts? (toSink ⟨quoting, none⟩ Sink.perfect
        ⟨1, 4, by decide, by decide⟩).outlet.accepted.toList =
      some [[text "EPSG Code", text "PROJ Definition"], [text "1", text "1,5 \"m\"\r\n"],
        [text "3", []]] := by
  obtain ⟨_, read, _⟩ := exportReadsBack ⟨quoting, none⟩ Sink.perfect
    ⟨1, 4, by decide, by decide⟩ Sink.perfectObliging
  exact ⟨Sink.perfectObliging, read⟩

end CrsExport.Export
