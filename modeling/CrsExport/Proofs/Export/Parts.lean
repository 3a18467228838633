import Mathlib.Algebra.GroupWithZero.Nat
import CrsExport.Proofs.Export.Counts
import CrsExport.Proofs.Export.ReadBack
/-! Exports in parts. What a code adds to the document and to the counters depends on the code
alone, so a range may be cut anywhere: the documents of consecutive parts, without their titles
and one after the other, make up the document of the whole, and the counters add up. -/

namespace CrsExport

/-- Consecutive parts that make up a range. -/
inductive Cut : CodeRange → List CodeRange → Prop where
  | whole (range : CodeRange) : Cut range [range]
  | next {range front back : CodeRange} {parts : List CodeRange} (rest : Cut back parts)
      (starts : front.start = range.start) (meets : front.stop = back.start)
      (ends : back.stop = range.stop) : Cut range (front :: parts)

theorem codesOfParts {range : CodeRange} {parts : List CodeRange} (h : Cut range parts) :
    range.codes = parts.flatMap (·.codes) := by
  induction h with
  | whole range => simp
  | next rest starts meets ends ih =>
    rw [List.flatMap_cons, ← ih]
    exact CodeRange.codesJoin starts meets ends

def Csv.body (bytes : List UInt8) : List UInt8 := (bytes.dropWhile (· != lineFeed)).tail

namespace Export

def titleLine : List UInt8 := Text.utf8 (text "EPSG Code,PROJ Definition\n")

def rowLines (x : Exporter) (range : CodeRange) : List UInt8 :=
  Csv.document ((rows x range).map rowFields)

variable {x : Exporter} {range : CodeRange} {parts : List CodeRange}

theorem documentTitled (x : Exporter) (range : CodeRange) :
    document x range = titleLine ++ rowLines x range := by
  have titles : titleLine = Csv.record headerFields.1 headerFields.2 := by decide
  rw [titles]
  rfl

/- The titles are on one line, so the first line feed is the one behind them. -/
theorem documentBody (x : Exporter) (range : CodeRange) :
    Csv.body (document x range) = rowLines x range := by
  obtain ⟨titles, line, free⟩ : ∃ titles, titleLine = titles ++ [Csv.lineFeed] ∧
      ∀ b ∈ titles, (b != Csv.lineFeed) = true :=
    ⟨Text.utf8 (text "EPSG Code,PROJ Definition"), by decide, by decide +kernel⟩
  have past : ([Csv.lineFeed] ++ rowLines x range).dropWhile (· != Csv.lineFeed) =
      Csv.lineFeed :: rowLines x range := by simp
  rw [documentTitled, line, List.append_assoc, Csv.body, List.dropWhile_append_of_pos free, past]
  rfl

theorem rowLinesJoin (h : Cut range parts) :
    rowLines x range = parts.flatMap (rowLines x) := by
  simp only [rowLines, Csv.document, rows, codesOfParts h, List.filterMap_flatMap,
    List.map_flatMap, List.flatMap_assoc]
  rfl

theorem totalsJoin (h : Cut range parts) :
    (totals x range).scanned = (parts.map fun p => (totals x p).scanned).sum ∧
      (totals x range).written = (parts.map fun p => (totals x p).written).sum ∧
      ∀ reason, (totals x range).skipped.count reason =
        (parts.map fun p => (totals x p).skipped.count reason).sum := by
  have whole := totalsCounts x range
  have part := totalsCounts x
  have codes := codesOfParts h
  refine ⟨?_, ?_, fun reason => ?_⟩
  · simp only [whole.scanned, (part _).scanned, codes, List.length_flatMap]
  · simp only [whole.written, (part _).written, codes, List.countP_flatMap]
    rfl
  · simp only [whole.skipped, (part _).skipped, codes, List.countP_flatMap]
    rfl

/- The sinks may be different ones, as long as each takes what it is given. -/
theorem partsMakeWhole (x : Exporter) :
    (∀ sink : Sink, sink.Obliging → ∀ range,
      ∃ stats, (toSink x sink range).result = .ok stats) ∧
    (∀ (s m e : Code) (positive : 1 ≤ s) (low : s < m) (high : m < e)
      (sink sink₁ sink₂ : Sink) (stats stats₁ stats₂ : ExportStats),
      let whole := toSink x sink ⟨s, e, positive, UInt32.lt_trans low high⟩
      let front := toSink x sink₁ ⟨s, m, positive, low⟩
      let back := toSink x sink₂ ⟨m, e, UInt32.le_trans positive (UInt32.le_of_lt low), high⟩
      whole.result = .ok stats → front.result = .ok stats₁ → back.result = .ok stats₂ →
        whole.outlet.accepted.toList =
          front.outlet.accepted.toList ++ Csv.body back.outlet.accepted.toList ∧
        stats.scanned = stats₁.scanned + stats₂.scanned ∧
        stats.written = stats₁.written + stats₂.written ∧
        ∀ reason, stats.skipped.count reason =
          stats₁.skipped.count reason + stats₂.skipped.count reason) ∧
    ∀ (range : CodeRange) (parts : List CodeRange), Cut range parts →
      ∀ (sink : CodeRange → Sink) (stats : CodeRange → ExportStats),
      (∀ r ∈ range :: parts, (toSink x (sink r) r).result = .ok (stats r)) →
        (toSink x (sink range) range).outlet.accepted.toList =
          titleLine ++ (parts.flatMap fun p =>
            Csv.body (toSink x (sink p) p).outlet.accepted.toList) ∧
        (stats range).scanned = (parts.map fun p => (stats p).scanned).sum ∧
        (stats range).written = (parts.map fun p => (stats p).written).sum ∧
        ∀ reason, (stats range).skipped.count reason =
          (parts.map fun p => (stats p).skipped.count reason).sum := by
  refine ⟨fun sink obliging range => obligingSucceeds obliging x range, ?_, ?_⟩
  · intro s m e positive low high sink sink₁ sink₂ stats stats₁ stats₂ whole front back
      ok ok₁ ok₂
    let back' : CodeRange := ⟨m, e, UInt32.le_trans positive (UInt32.le_of_lt low), high⟩
    have cut : Cut ⟨s, e, positive, UInt32.lt_trans low high⟩ [⟨s, m, positive, low⟩, back'] :=
      .next (.whole back') rfl rfl rfl
    obtain ⟨rfl, accepted, _⟩ := succeededWhole ok
    obtain ⟨rfl, accepted₁, _⟩ := succeededWhole ok₁
    obtain ⟨rfl, accepted₂, _⟩ := succeededWhole ok₂
    have joined := rowLinesJoin (x := x) cut
    refine ⟨?_, by simpa using totalsJoin (x := x) cut⟩
    rw [accepted, accepted₁, accepted₂, documentBody, documentTitled, documentTitled, joined]
    simp [back']
  · intro range parts cut sink stats ok
    have whole : ∀ r ∈ range :: parts, stats r = totals x r ∧
        (toSink x (sink r) r).outlet.accepted.toList = document x r :=
      fun r hr => ⟨(succeededWhole (ok r hr)).1, (succeededWhole (ok r hr)).2.1⟩
    obtain ⟨counted, accepted⟩ := whole range List.mem_cons_self
    have part : ∀ p ∈ parts, stats p = totals x p ∧
        Csv.body (toSink x (sink p) p).outlet.accepted.toList = rowLines x p := by
      intro p hp
      obtain ⟨counted, accepted⟩ := whole p (List.mem_cons_of_mem _ hp)
      exact ⟨counted, by rw [accepted, documentBody]⟩
    have same : ∀ figure : ExportStats → Nat,
        (parts.map fun p => figure (stats p)) = parts.map fun p => figure (totals x p) :=
      fun figure => List.map_congr_left fun p hp => by rw [(part p hp).1]
    obtain ⟨scanned, written, skipped⟩ := totalsJoin (x := x) cut
    refine ⟨?_, ?_, ?_, fun reason => ?_⟩
    · rw [accepted, documentTitled, rowLinesJoin cut,
        List.flatMap_congr fun p hp => (part p hp).2]
    · rw [counted, scanned, same (·.scanned)]
    · rw [counted, written, same (·.written)]
    · rw [counted, skipped, same (·.skipped.count reason)]

/- The row of the first code runs over a line end, and the code after it has no row. -/
theorem quotingInParts :
    let x : Exporter := ⟨quoting, none⟩
    let range : CodeRange := ⟨1, 4, by decide, by decide⟩
    let parts : List CodeRange :=
      [⟨1, 2, by decide, by decide⟩, ⟨2, 3, by decide, by decide⟩, ⟨3, 4, by decide, by decide⟩]
    let bytes := fun r => (toSink x .perfect r).outlet.accepted.toList
    Cut range parts ∧
      (∀ r, (toSink x .perfect r).result = .ok (totals x r)) ∧
      bytes range = bytes ⟨1, 2, by decide, by decide⟩ ++
        Csv.body (bytes ⟨2, 4, by decide, by decide⟩) ∧
      bytes range = titleLine ++ parts.flatMap (fun p => Csv.body (bytes p)) ∧
      (totals x range).written = 2 ∧
      (parts.map fun p => (totals x p).written) = [1, 0, 1] ∧
      (parts.map fun p => (totals x p).skipped.count .unknownCode).sum = 1 := by
  intro x range parts bytes
  obtain ⟨_, inTwo, inMany⟩ := partsMakeWhole x
  have ok : ∀ r, (toSink x .perfect r).result = .ok (totals x r) :=
    obligingTotals Sink.perfectObliging x
  have rest : Cut ⟨2, 4, by decide, by decide⟩ parts.tail := .next (.whole _) rfl rfl rfl
  have cut : Cut range parts := .next rest rfl rfl rfl
  obtain ⟨front, _⟩ := inTwo 1 2 4 (by decide) (by decide) (by decide) .perfect .perfect .perfect
    _ _ _ (ok _) (ok _) (ok _)
  obtain ⟨whole, _, written, skipped⟩ := inMany range parts cut (fun _ => .perfect) (totals x)
    fun r _ => ok r
  have each : (parts.map fun p => (totals x p).written) = [1, 0, 1] := by decide +kernel
  have unknown : (totals x range).skipped.count .unknownCode = 1 := by decide +kernel
  refine ⟨cut, ok, front, whole, ?_, each, (skipped .unknownCode).symm.trans unknown⟩
  rw [written, each]
  rfl

end Export
end CrsExport
