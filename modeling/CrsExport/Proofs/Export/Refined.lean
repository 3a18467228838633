import Mathlib.Data.List.Basic
import CrsExport.Proofs.Export.Counts
import CrsExport.Proofs.Export.ReadBack
import CrsExport.Proofs.Export.Rows
/-! An export with a refiner beside the same export without one. The refiner comes to a code
after its definition, so it can change a row or take it away. It brings none about, and no
failure of the resolver becomes another one. -/

namespace CrsExport

namespace Exporter

variable {resolver : Resolver} {refiner : Refiner} {code : Code} {row : ExportRecord}
  {e : ResolveError} {reason : SkipReason}

/- Nothing but the definition of the row gets to the refiner. -/
theorem recordRefines (resolver : Resolver) (refiner : Refiner) (code : Code) :
    (Exporter.mk resolver (some refiner)).record code =
      match (Exporter.mk resolver none).record code with
      | .error e => .error e
      | .ok row =>
        (Definition.normalize code (refiner.refine row.definition code)).map (⟨code, ·⟩) := by
  unfold record
  cases resolver.resolve code with
  | error e => rfl
  | ok crs =>
    dsimp only
    cases resolver.toProjString crs with
    | error e => rfl
    | ok definition => rfl

theorem refusedAnyway (h : (Exporter.mk resolver none).record code = .error e) :
    (Exporter.mk resolver (some refiner)).record code = .error e := by
  rw [recordRefines, h]

theorem writtenAnyway (h : (Exporter.mk resolver (some refiner)).record code = .ok row) :
    ∃ before, (Exporter.mk resolver none).record code = .ok before := by
  cases plain : (Exporter.mk resolver none).record code with
  | error e =>
    rw [refusedAnyway plain] at h
    cases h
  | ok before => exact ⟨before, rfl⟩

theorem refusedAfterwards (before : (Exporter.mk resolver none).record code = .ok row)
    (h : (Exporter.mk resolver (some refiner)).record code = .error e) :
    ∃ why, e = .unsupportedDefinition code why := by
  rw [recordRefines, before] at h
  dsimp only at h
  cases checked : Definition.normalize code (refiner.refine row.definition code) with
  | error refusal =>
    rw [checked] at h
    cases h
    exact Definition.normalizeRefused checked
  | ok refined =>
    rw [checked] at h
    cases h

/- One reason gains codes, the others keep theirs. -/
theorem reasonKept (other : reason ≠ .unsupportedDefinition) :
    (Exporter.mk resolver (some refiner)).skipReason? code = some reason ↔
      (Exporter.mk resolver none).skipReason? code = some reason := by
  unfold skipReason?
  cases plain : (Exporter.mk resolver none).record code with
  | error e => rw [refusedAnyway plain]
  | ok row =>
    cases refined : (Exporter.mk resolver (some refiner)).record code with
    | ok after => exact Iff.rfl
    | error e =>
      obtain ⟨why, rfl⟩ := refusedAfterwards plain refined
      simp [ResolveError.skipReason, other.symm]

end Exporter

namespace Export

/- The codes that have rows are compared, the definitions in them may be different. -/
theorem refiningOnlySkips (resolver : Resolver) (refiner : Refiner) :
    let plain : Exporter := { resolver }
    let refined : Exporter := { resolver, refiner := some refiner }
    (∀ code,
      (∀ row, refined.record code = .ok row → ∃ before, plain.record code = .ok before) ∧
      (∀ e, plain.record code = .error e → refined.record code = .error e) ∧
      ∀ row e, plain.record code = .ok row → refined.record code = .error e →
        ∃ why, e = .unsupportedDefinition code why) ∧
    ∀ range : CodeRange,
      ((rows refined range).map (·.code)).Sublist ((rows plain range).map (·.code)) ∧
      ∀ (sink sink' : Sink) (s s' : ExportStats),
        (toSink plain sink range).result = .ok s →
        (toSink refined sink' range).result = .ok s' →
          s'.scanned = s.scanned ∧
          s'.skipped.unknown = s.skipped.unknown ∧
          s'.skipped.failure = s.skipped.failure ∧
          s'.written ≤ s.written ∧
          s'.skipped.unsupported =
            s.skipped.unsupported + (s.written - s'.written) := by
  intro plain refined
  have kept : ∀ code, (refined.record code).isOk → (plain.record code).isOk := by
    intro code ok
    cases found : plain.record code with
    | ok row => rfl
    | error e =>
      have refused : refined.record code = .error e := Exporter.refusedAnyway found
      rw [refused] at ok
      exact ok
  refine ⟨fun code => ⟨fun row => Exporter.writtenAnyway, fun e => Exporter.refusedAnyway,
    fun row e => Exporter.refusedAfterwards⟩, fun range => ⟨?_, ?_⟩⟩
  · rw [rowCodes, rowCodes]
    exact List.monotone_filter_right range.codes kept
  · intro sink sink' s s' first second
    have before := succeededCounts first
    have after := succeededCounts second
    have same : ∀ reason, reason ≠ .unsupportedDefinition →
        s'.skipped.count reason = s.skipped.count reason := by
      intro reason other
      rw [before.skipped, after.skipped]
      refine List.countP_congr fun code _ => ?_
      simpa using Exporter.reasonKept other
    have unknown : s'.skipped.unknown = s.skipped.unknown :=
      same .unknownCode (by decide)
    have failure : s'.skipped.failure = s.skipped.failure :=
      same .resolverFailure (by decide)
    have scanned := after.scanned.trans before.scanned.symm
    have fewer : s'.written ≤ s.written := by
      rw [before.written, after.written]
      exact List.countP_mono_left fun code _ => kept code
    refine ⟨scanned, unknown, failure, fewer, ?_⟩
    -- what the rows have lost is all that can make up for it
    have balance := after.balanced
    have balance' := before.balanced
    simp only [SkipStats.total] at balance balance'
    omega

/- Code 1 lacks its projection, code 2 loses it, and code 3 is not known. -/
def scarce : Resolver := Database.resolver fun c =>
  if c = 1 then some { proj4 := "+datum=WGS84" }
  else if c = 2 then some { proj4 := "+proj=utm +zone=31" }
  else none

def adding : Refiner where
  additions := text "+proj=longlat"
  codeSubstitutions := [{ codes := [⟨2, 2⟩], apply := fun _ => [] }]

theorem additionsRescueNothing :
    let missing : ResolveError := .unsupportedDefinition 1 Definition.missingReason
    let range : CodeRange := ⟨1, 4, by decide, by decide⟩
    (Exporter.mk scarce none).record 1 = .error missing ∧
      (Exporter.mk scarce (some adding)).record 1 = .error missing ∧
      ∃ s s', (toSink ⟨scarce, none⟩ .perfect range).result = .ok s ∧
        (toSink ⟨scarce, some adding⟩ .perfect range).result = .ok s' ∧
        s = ⟨3, 1, ⟨1, 1, 0⟩⟩ ∧ s'.written = 0 ∧ s'.skipped.unsupported = 2 := by
  intro missing range
  obtain ⟨codes, ranges⟩ := refiningOnlySkips scarce adding
  have refused : (Exporter.mk scarce none).record 1 = .error missing := rfl
  obtain ⟨s, first⟩ := obligingSucceeds Sink.perfectObliging ⟨scarce, none⟩ range
  obtain ⟨s', second⟩ := obligingSucceeds Sink.perfectObliging ⟨scarce, some adding⟩ range
  obtain ⟨_, _, _, _, unsupported⟩ := (ranges range).2 .perfect .perfect s s' first second
  have before : s = ⟨3, 1, ⟨1, 1, 0⟩⟩ := (succeededWhole first).1.trans (by decide +kernel)
  have written : s'.written = 0 := by
    rw [(succeededWhole second).1]
    decide +kernel
  rw [before, written] at unsupported
  exact ⟨refused, (codes 1).2.1 missing refused, s, s', first, second, before, written,
    unsupported⟩

end Export
end CrsExport
