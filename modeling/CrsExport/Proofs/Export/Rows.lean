import Mathlib.Data.List.Nodup
import CrsExport.Proofs.Export.Range
import CrsExport.Proofs.Export.Record
/-! Which codes have rows. The row of a code is in an export once if the code is in its range
and has one, and no other row bears the code. -/

namespace CrsExport.Export

theorem rowsMem {x : Exporter} {range : CodeRange} {r : ExportRecord} :
    r ∈ rows x range ↔ r.code ∈ range.codes ∧ x.record r.code = .ok r := by
  rw [rows, List.mem_filterMap]
  constructor
  · rintro ⟨code, member, found⟩
    cases kept : x.record code with
    | error e =>
      rw [kept] at found
      cases found
    | ok row =>
      rw [kept] at found
      cases found
      obtain ⟨rfl, _⟩ := Exporter.recordFrom kept
      exact ⟨member, kept⟩
  · rintro ⟨member, kept⟩
    exact ⟨r.code, member, by rw [kept]; rfl⟩

theorem rowCodes (x : Exporter) (range : CodeRange) :
    (rows x range).map (·.code) = range.codes.filter fun c => (x.record c).isOk := by
  unfold rows
  induction range.codes with
  | nil => rfl
  | cons code rest ih =>
    cases found : x.record code with
    | error e => simpa [found, Except.toOption, Except.isOk, Except.toBool] using ih
    | ok row =>
      have same := (Exporter.recordFrom found).1
      simpa [found, Except.toOption, Except.isOk, Except.toBool, same] using ih

theorem rowsOfCode (x : Exporter) (range : CodeRange) (c : Code) :
    (rows x range).filter (·.code == c) =
      if c ∈ range.codes then (x.record c).toOption.toList else [] := by
  -- a row bears its own code, so the codes can be picked out in its place
  have picked : (rows x range).filter (·.code == c) =
      (range.codes.filter (· == c)).filterMap fun d => (x.record d).toOption := by
    rw [rows, List.filter_filterMap, List.filterMap_filter]
    refine List.filterMap_congr fun d _ => ?_
    cases found : x.record d with
    | error e => simp [Except.toOption]
    | ok row => simp [Except.toOption, Option.filter_some, (Exporter.recordFrom found).1]
  rw [picked, List.filter_beq, range.codesDistinct.count]
  split
  · cases found : x.record c with
    | error e => simp [found, Except.toOption]
    | ok row => simp [found, Except.toOption]
  · rfl

end CrsExport.Export
