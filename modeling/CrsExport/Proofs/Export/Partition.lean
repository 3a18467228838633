import Mathlib.Data.List.Sort
import CrsExport.Proofs.Export.Events
import CrsExport.Proofs.Export.ReadBack
import CrsExport.Proofs.Export.Rows
import CrsExport.Proofs.Log.Shown
/-! The codes of a range in the log and in the document. A refusal names the code that was asked
for, wherever on the way to the row it comes from. So each code of the range is either in the log
as skipped or in the document, and both have their codes in ascending order. -/

namespace CrsExport

namespace Resolver

/-- What a resolver hands out for a code, and what it refuses, is about that code. -/
structure Faithful (r : Resolver) : Prop where
  standard : r.Standard
  found : ∀ {c crs}, r.resolve c = .ok crs → crs.code = c
  refused : ∀ {c e}, r.resolve c = .error e → e.code = c

/-- The resolvers of this library: over a database of any content or an init file of any text. -/
inductive Shipped : Resolver → Prop where
  | builtin (db : Database) : Shipped db.resolver
  | initFile (contents : Text) : Shipped (InitFile.parse contents).resolver

theorem databaseFaithful (db : Database) : db.resolver.Faithful := by
  refine ⟨db.resolverStandard, fun {c crs} h => ?_, fun {c e} h => ?_⟩
  · rw [db.resolverResolve] at h
    split at h
    · cases h
    · cases h
      rfl
  · rw [db.resolverResolve] at h
    split at h
    · cases h
      rfl
    · cases h

theorem initFileFaithful (table : InitFile) : table.resolver.Faithful := by
  refine ⟨table.resolverStandard, fun {c crs} h => ?_, fun {c e} h => ?_⟩
  · rw [table.resolverResolve] at h
    split at h
    · cases h
      rfl
    · cases h
  · rw [table.resolverResolve] at h
    split at h
    · cases h
    · cases h
      rfl

theorem shippedFaithful {r : Resolver} (h : r.Shipped) : r.Faithful := by
  cases h with
  | builtin db => exact databaseFaithful db
  | initFile contents => exact initFileFaithful (InitFile.parse contents)

end Resolver

/- A code above 65535 is refused before the database is asked, whatever it holds for the code
that has the same lower 16 bits. -/
theorem Exporter.beyondKeys {x : Exporter} {db : Database} (kept : x.resolver = db.resolver)
    {code : Code} (h : 65535 < code.toNat) : x.record code = .error (.unknownCode code) := by
  have outside : ¬ code.toNat < 65536 := by omega
  have missing : db.lookup code = none := if_neg outside
  have unknown : x.resolver.resolve code = .error (.unknownCode code) := by
    rw [kept, db.resolverResolve, missing]
  simp only [record, unknown]

theorem Exporter.refusalCode {x : Exporter} {code : Code} {e : ResolveError}
    (faithful : x.resolver.Faithful) (h : x.record code = .error e) : e.code = code := by
  obtain unresolved | ⟨crs, found, unhanded | ⟨why, rfl⟩⟩ := refusedFrom h
  · exact faithful.refused unresolved
  · rw [faithful.standard crs] at unhanded
    obtain ⟨why, rfl⟩ := Definition.normalizeRefused unhanded
    exact faithful.found found
  · rfl

namespace Export

def refusals (x : Exporter) (range : CodeRange) : List ResolveError :=
  range.codes.filterMap x.refusal?

variable {x : Exporter} {sink : Sink} {range : CodeRange} {stats : ExportStats}

theorem codesEventsRefusals (x : Exporter) (range : CodeRange) (before : ExportStats)
    (codes : List Code) :
    (codesEvents x range before codes).filterMap Log.Event.refusal? =
      codes.filterMap x.refusal? := by
  have substituting : ∀ code, (x.substitutionEvents code).filterMap Log.Event.refusal? = [] := by
    intro code
    unfold Exporter.substitutionEvents
    split <;> rfl
  have progress : ∀ code stats,
      (progressEvents range code stats).filterMap Log.Event.refusal? = [] := by
    intro code stats
    unfold progressEvents
    split <;> rfl
  induction codes generalizing before with
  | nil => rfl
  | cons code rest ih =>
    rw [codesEvents, codeEvents, List.filterMap_append, ih, List.filterMap_append,
      List.filterMap_append, substituting, progress, List.filterMap_cons]
    cases x.refusal? code with
    | none => rfl
    | some e => rfl

theorem skipsLogged (h : (toSink x sink range).result = .ok stats) (times : Log.Times) :
    Log.skipLines times (toSink x sink range).events =
      (refusals x range).map fun e =>
        text "Skipping EPSG:" ++ e.code.toText ++ text ": " ++ e.message := by
  rw [Log.skipLinesOfRefusals, succeededEvents h, refusals,
    ← codesEventsRefusals x range {} range.codes]
  rfl

theorem refusalsMem {e : ResolveError} :
    e ∈ refusals x range ↔ ∃ code ∈ range.codes, x.record code = .error e := by
  rw [refusals, List.mem_filterMap]
  refine exists_congr fun code => and_congr_right fun _ => ?_
  cases found : x.record code <;> simp [Exporter.refusal?, found]

theorem refusalCodes (faithful : x.resolver.Faithful) (range : CodeRange) :
    (refusals x range).map (·.code) = range.codes.filter fun c => !(x.record c).isOk := by
  unfold refusals
  induction range.codes with
  | nil => rfl
  | cons code rest ih =>
    cases found : x.record code with
    | error e =>
      have same := Exporter.refusalCode faithful found
      simpa [Exporter.refusal?, found, Except.isOk, Except.toBool, same] using ih
    | ok row => simpa [Exporter.refusal?, found, Except.isOk, Except.toBool] using ih

/-- Two lists of codes share a range out: both ascend, no code is in both, and the codes of the
range are the ones that are in either. -/
structure SharesOut (range : CodeRange) (skipped written : List Code) : Prop where
  skippedAscend : skipped.Pairwise (· < ·)
  writtenAscend : written.Pairwise (· < ·)
  separate : skipped.Disjoint written
  whole : ∀ code, code ∈ skipped ∨ code ∈ written ↔ range.start ≤ code ∧ code < range.stop

/- Either list determines the other one. -/
theorem sharedOutRest {skipped written : List Code} (h : SharesOut range skipped written) :
    skipped = range.codes.filter (· ∉ written) := by
  refine h.skippedAscend.eq_of_mem_iff (range.codesSorted.filter _) fun code => ?_
  simp only [List.mem_filter, decide_eq_true_eq, CodeRange.codesMem, ← h.whole]
  constructor
  · exact fun refused => ⟨.inl refused, h.separate refused⟩
  · exact fun ⟨either, absent⟩ => either.resolve_right absent

theorem refusalsRowsShareOut (faithful : x.resolver.Faithful) (range : CodeRange) :
    SharesOut range ((refusals x range).map (·.code)) ((rows x range).map (·.code)) := by
  rw [refusalCodes faithful, rowCodes]
  refine ⟨range.codesSorted.filter _, range.codesSorted.filter _, fun code refused kept => ?_,
    fun code => ?_⟩
  · have absent := (List.mem_filter.mp refused).2
    rw [(List.mem_filter.mp kept).2] at absent
    contradiction
  · rw [← CodeRange.codesMem, List.mem_filter, List.mem_filter]
    cases (x.record code).isOk <;> simp

theorem skippedAndWrittenShareOut (x : Exporter) (shipped : x.resolver.Shipped) :
    (∀ code, (∀ row, x.record code = .ok row → row.code = code) ∧
      ∀ e, x.record code = .error e → e.code = code) ∧
    (∀ db : Database, x.resolver = db.resolver →
      ∀ code : Code, 65535 < code.toNat → x.record code = .error (.unknownCode code)) ∧
    ∀ sink range stats, (toSink x sink range).result = .ok stats →
      ∃ (skipped : List ResolveError) (written : List ExportRecord),
        (∀ times, Log.skipLines times (toSink x sink range).events =
          skipped.map fun e =>
            text "Skipping EPSG:" ++ e.code.toText ++ text ": " ++ e.message) ∧
        Csv.readTexts? (toSink x sink range).outlet.accepted.toList =
          some ([text "EPSG Code", text "PROJ Definition"] ::
            written.map fun row => [row.code.toText, row.definition]) ∧
        SharesOut range (skipped.map (·.code)) (written.map (·.code)) ∧
        ∀ db : Database, x.resolver = db.resolver → ∀ code ∈ range.codes,
          65535 < code.toNat → .unknownCode code ∈ skipped := by
  have faithful := Resolver.shippedFaithful shipped
  refine ⟨fun code => ⟨fun row found => (Exporter.recordFrom found).1,
    fun e refused => Exporter.refusalCode faithful refused⟩,
    fun db kept code beyond => Exporter.beyondKeys kept beyond, fun sink range stats ok => ?_⟩
  refine ⟨refusals x range, rows x range, skipsLogged ok, ?_, refusalsRowsShareOut faithful range,
    fun db kept code member beyond =>
      refusalsMem.mpr ⟨code, member, Exporter.beyondKeys kept beyond⟩⟩
  obtain ⟨_, accepted, _⟩ := succeededWhole ok
  have accepted : (toSink x sink range).outlet.accepted.toList = document x range := accepted
  rw [accepted, documentReadsBack, ← rowTexts]
  rfl

/- A database with a definition under each of its keys, and a range that goes on behind them. -/
def everyKey : Database := fun _ => some { proj4 := "+proj=longlat" }

def lastKey : CodeRange := ⟨65535, 65538, by decide, by decide⟩

theorem everyKeySharesOut :
    let run := toSink ⟨everyKey.resolver, none⟩ .perfect lastKey
    everyKey.resolver.Shipped ∧ run.result = .ok ⟨3, 1, ⟨2, 0, 0⟩⟩ ∧
      run.outlet.accepted.toList =
        Text.utf8 (text "EPSG Code,PROJ Definition\n65535,+proj=longlat\n") ∧
      ∃ (skipped : List ResolveError) (written : List ExportRecord),
        (∀ times, Log.skipLines times run.events =
          skipped.map fun e =>
            text "Skipping EPSG:" ++ e.code.toText ++ text ": " ++ e.message) ∧
        SharesOut lastKey (skipped.map (·.code)) (written.map (·.code)) ∧
        .unknownCode 65536 ∈ skipped ∧ .unknownCode 65537 ∈ skipped ∧
        skipped.map (·.code) = [65536, 65537] ∧ written.map (·.code) = [65535] := by
  intro run
  have shipped := Resolver.Shipped.builtin everyKey
  obtain ⟨_, _, exported⟩ := skippedAndWrittenShareOut ⟨everyKey.resolver, none⟩ shipped
  obtain ⟨stats, ok⟩ := obligingSucceeds Sink.perfectObliging ⟨everyKey.resolver, none⟩ lastKey
  obtain ⟨counts, accepted, _⟩ := succeededWhole ok
  have counts : stats = ⟨3, 1, ⟨2, 0, 0⟩⟩ := counts.trans (by decide +kernel)
  have accepted : run.outlet.accepted.toList =
      Text.utf8 (text "EPSG Code,PROJ Definition\n65535,+proj=longlat\n") :=
    accepted.trans (by decide +kernel)
  obtain ⟨skipped, written, logged, read, shares, beyond⟩ := exported _ _ _ ok
  have codes : lastKey.codes = [65535, 65536, 65537] := by decide
  have beyondFirst : .unknownCode 65536 ∈ skipped :=
    beyond everyKey rfl 65536 (by simp [codes]) (by decide)
  have beyondSecond : .unknownCode 65537 ∈ skipped :=
    beyond everyKey rfl 65537 (by simp [codes]) (by decide)
  -- one row is read back, and its code is none of the two that are skipped
  have whole : Csv.readTexts? run.outlet.accepted.toList =
      some [[text "EPSG Code", text "PROJ Definition"], [text "65535", text "+proj=longlat"]] := by
    rw [accepted]
    decide +kernel
  have rows := Option.some.inj (read.symm.trans whole)
  obtain ⟨row, rfl, _⟩ := List.map_eq_singleton_iff.mp (List.cons.inj rows).2
  have apart : ∀ e ∈ skipped, row.code ≠ e.code := by
    intro e refused same
    exact shares.separate (List.mem_map_of_mem refused) (by simp [← same])
  have member : row.code ∈ lastKey.codes :=
    CodeRange.codesMem.mpr ((shares.whole row.code).mp (.inr (by simp)))
  have key : row.code = 65535 := by
    simp only [codes, List.mem_cons, List.not_mem_nil, or_false] at member
    rcases member with key | first | second
    · exact key
    · exact absurd first (apart _ beyondFirst)
    · exact absurd second (apart _ beyondSecond)
  have rest : skipped.map (·.code) = [65536, 65537] := by
    rw [sharedOutRest shares, codes, List.map_singleton, key]
    decide
  exact ⟨shipped, counts ▸ ok, accepted, skipped, [row], logged, shares, beyondFirst,
    beyondSecond, rest, congrArg (fun c => [c]) key⟩

end Export
end CrsExport
