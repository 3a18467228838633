import CrsExport.Proofs.Export.Delivery
/-! What the counters of an export count. After any number of codes each counter stands at the
number of those codes that concern it, and every code has raised one of them. -/

namespace CrsExport

def Exporter.skipReason? (x : Exporter) (code : Code) : Option SkipReason :=
  match x.record code with
  | .ok _ => none
  | .error e => some e.skipReason

namespace Export

structure Counts (x : Exporter) (seen : List Code) (s : ExportStats) : Prop where
  scanned : s.scanned = seen.length
  written : s.written = seen.countP fun c => (x.record c).isOk
  skipped : ∀ reason, s.skipped.count reason =
    seen.countP fun c => x.skipReason? c == some reason
  balanced : s.written + s.skipped.total = s.scanned

variable {x : Exporter} {seen : List Code} {s : ExportStats}

theorem noneCounted : Counts x [] {} :=
  ⟨rfl, rfl, fun reason => by cases reason <;> rfl, rfl⟩

theorem afterCounts (h : Counts x seen s) (code : Code) :
    Counts x (seen ++ [code]) (s.after (x.record code)) := by
  obtain ⟨scanned, written, skipped, balanced⟩ := h
  cases found : x.record code with
  | ok row =>
    have kept : x.skipReason? code = none := by simp [Exporter.skipReason?, found]
    refine ⟨?_, ?_, fun reason => ?_, ?_⟩
    · simp [ExportStats.after, scanned]
    · simp [ExportStats.after, written, found, Except.isOk, Except.toBool]
    · simp [ExportStats.after, skipped, kept]
    · simp only [ExportStats.after]
      omega
  | error e =>
    have left : x.skipReason? code = some e.skipReason := by simp [Exporter.skipReason?, found]
    refine ⟨?_, ?_, fun reason => ?_, ?_⟩
    · simp [ExportStats.after, scanned]
    · simp [ExportStats.after, written, found, Except.isOk, Except.toBool]
    · rw [List.countP_append, List.countP_singleton, left, ← skipped]
      by_cases same : reason = e.skipReason
      · simp [ExportStats.after, SkipStats.countIncremented, same]
      · simp [ExportStats.after, SkipStats.countIncremented, same, Ne.symm same]
    · simp only [ExportStats.after, SkipStats.totalIncremented]
      omega

theorem foldCounts (codes : List Code) (h : Counts x seen s) :
    Counts x (seen ++ codes) (codes.foldl (fun s c => s.after (x.record c)) s) := by
  induction codes generalizing seen s with
  | nil => rwa [List.append_nil]
  | cons code rest ih =>
    have next := ih (afterCounts h code)
    rwa [List.append_assoc] at next

theorem totalsCounts (x : Exporter) (range : CodeRange) :
    Counts x range.codes (totals x range) := foldCounts range.codes noneCounted

/- The counts do not depend on the sink, as long as it takes the document. -/
theorem succeededCounts {sink : Sink} {range : CodeRange} {stats : ExportStats}
    (h : (toSink x sink range).result = .ok stats) : Counts x range.codes stats :=
  (succeededWhole h).1 ▸ totalsCounts x range

end Export
end CrsExport
