import CrsExport.Proofs.Export.Delivery
/-! What an export that succeeds reports. For each code in turn there are the substitutions that
are applied to it, its refusal if it has no row, and the progress, worked out from the counts of
the codes before it. -/

namespace CrsExport

def Exporter.refusal? (x : Exporter) (code : Code) : Option ResolveError :=
  match x.record code with
  | .ok _ => none
  | .error e => some e

namespace Export

def codeEvents (x : Exporter) (range : CodeRange) (before : ExportStats) (code : Code) :
    List Log.Event :=
  x.substitutionEvents code ++ (x.refusal? code).toList.map .skipping ++
    progressEvents range code (before.after (x.record code))

def codesEvents (x : Exporter) (range : CodeRange) : ExportStats → List Code → List Log.Event
  | _, [] => []
  | before, code :: rest =>
    codeEvents x range before code ++ codesEvents x range (before.after (x.record code)) rest

variable {x : Exporter} {sink : Sink} {range : CodeRange}

theorem scanCodeEvents {code : Code} {s s' : Scan}
    (h : scanCode x sink range code s = (none, s')) :
    s'.events.toList = s.events.toList ++ codeEvents x range s.stats code := by
  unfold scanCode at h
  unfold codeEvents Exporter.refusal?
  cases found : x.record code with
  | error e =>
    simp only [found] at h
    cases h
    simp [ExportStats.after]
  | ok row =>
    simp only [found] at h
    split at h
    · cases h
    · cases h
      simp [ExportStats.after]

theorem scanCodesEvents {count : Nat} {code : Code} {s s' : Scan}
    (h : scanCodes x sink range count code s = (none, s')) :
    s'.events.toList =
      s.events.toList ++ codesEvents x range s.stats (Code.ascending count code) := by
  induction count generalizing code s with
  | zero =>
    cases h
    exact (List.append_nil _).symm
  | succ count ih =>
    unfold scanCodes at h
    split at h
    · rename_i next looked
      rw [ih h, scanCodeEvents looked, scanCodeStats looked, List.append_assoc]
      rfl
    · rename_i failed
      exact absurd h (failed s')

theorem scanRangeEvents {s : Scan} (h : scanRange x sink range = (none, s)) :
    s.events.toList =
      .scanning range x.resolver.name :: codesEvents x range {} range.codes := by
  unfold scanRange at h
  split at h
  · cases h
  · rw [scanCodesEvents h, CodeRange.codesAscending]
    rfl

theorem succeededScan {stats : ExportStats} (h : (toSink x sink range).result = .ok stats) :
    ∃ s, scanRange x sink range = (none, s) ∧ (toSink x sink range).events = s.events.toList := by
  unfold toSink at h ⊢
  split at h
  · cases h
  · rename_i s scanned
    split at h
    · cases h
    · exact ⟨s, scanned, rfl⟩

theorem succeededEvents {stats : ExportStats} (h : (toSink x sink range).result = .ok stats) :
    (toSink x sink range).events =
      .scanning range x.resolver.name :: codesEvents x range {} range.codes := by
  obtain ⟨s, scanned, events⟩ := succeededScan h
  rw [events, scanRangeEvents scanned]

end Export
end CrsExport
