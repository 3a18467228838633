import CrsExport.Export.Scan
import CrsExport.Proofs.Csv.Buffer
import CrsExport.Proofs.Export.Range
/-! The scan of a range as two runs over its codes: what is stored, which is the document of
the range piece by piece, and what is counted. Neither depends on the other. -/

namespace CrsExport
open Csv (Piece recordPieces)

def ExportStats.after (s : ExportStats) : Except ResolveError ExportRecord → ExportStats
  | .ok _ => { s with scanned := s.scanned + 1, written := s.written + 1 }
  | .error e =>
    { s with scanned := s.scanned + 1, skipped := s.skipped.increment e.skipReason }

namespace Export

def codePieces (x : Exporter) (code : Code) : List Piece :=
  match x.record code with
  | .ok row => recordPieces (rowFields row).1 (rowFields row).2
  | .error _ => []

def documentPieces (x : Exporter) (range : CodeRange) : List Piece :=
  recordPieces headerFields.1 headerFields.2 ++ range.codes.flatMap (codePieces x)

def totals (x : Exporter) (range : CodeRange) : ExportStats :=
  range.codes.foldl (fun s c => s.after (x.record c)) {}

theorem documentPiecesRows (x : Exporter) (range : CodeRange) :
    documentPieces x range =
      (headerFields :: (rows x range).map rowFields).flatMap fun r => recordPieces r.1 r.2 := by
  have each : ∀ codes : List Code, codes.flatMap (codePieces x) =
      ((codes.filterMap fun c => (x.record c).toOption).map rowFields).flatMap
        fun r => recordPieces r.1 r.2 := by
    intro codes
    induction codes with
    | nil => rfl
    | cons code rest ih =>
      rw [List.flatMap_cons, ih, List.filterMap_cons]
      unfold codePieces
      cases x.record code with
      | error e => rfl
      | ok row => rfl
  rw [documentPieces, each]
  rfl

theorem documentFlatten (x : Exporter) (range : CodeRange) :
    (documentPieces x range).flatten = document x range := by
  rw [documentPiecesRows, List.flatMap_def, List.flatten_flatten, List.map_map]
  rfl

/- Two bytes at most stay together, those of a doubled quote. -/
theorem pieceSmall {x : Exporter} {range : CodeRange} :
    ∀ piece ∈ documentPieces x range, piece.length ≤ Csv.capacity := by
  have fields : ∀ field, ∀ piece ∈ Csv.fieldPieces field, piece.length ≤ 2 := by
    intro field piece member
    unfold Csv.fieldPieces at member
    split at member
    · simp only [List.cons_append, List.mem_cons, List.mem_append, List.mem_map,
        List.not_mem_nil, or_false] at member
      rcases member with rfl | ⟨b, _, rfl⟩ | rfl
      · exact Nat.le_succ 1
      · unfold Csv.escape
        split <;> simp
      · exact Nat.le_succ 1
    · obtain ⟨b, _, rfl⟩ := List.mem_map.mp member
      exact Nat.le_succ 1
  have records : ∀ first second, ∀ piece ∈ recordPieces first second,
      piece.length ≤ Csv.capacity := by
    intro first second piece member
    refine Nat.le_trans ?_ (by decide : 2 ≤ Csv.capacity)
    simp only [recordPieces, List.mem_append, List.mem_cons, List.not_mem_nil, or_false] at member
    rcases member with (inFirst | rfl | inSecond) | rfl
    · exact fields first piece inFirst
    · exact Nat.le_succ 1
    · exact fields second piece inSecond
    · exact Nat.le_succ 1
  intro piece member
  rcases List.mem_append.mp member with title | row
  · exact records _ _ piece title
  · obtain ⟨code, _, within⟩ := List.mem_flatMap.mp row
    unfold codePieces at within
    split at within
    · exact records _ _ piece within
    · cases within

variable (x : Exporter) (sink : Sink) (range : CodeRange)

theorem scanCodeWriter (code : Code) (s : Scan) :
    (scanCode x sink range code s).1 = (s.writer.storeAll sink (codePieces x code)).1 ∧
      (scanCode x sink range code s).2.writer =
        (s.writer.storeAll sink (codePieces x code)).2 := by
  unfold scanCode codePieces
  cases x.record code with
  | error e => exact ⟨rfl, rfl⟩
  | ok row =>
    simp only [Csv.Writer.record]
    cases s.writer.storeAll sink (recordPieces (rowFields row).1 (rowFields row).2) with
    | mk fault writer =>
      cases fault with
      | none => exact ⟨rfl, rfl⟩
      | some fault => exact ⟨rfl, rfl⟩

theorem scanCodesWriter (count : Nat) (code : Code) (s : Scan) :
    let pieces := (Code.ascending count code).flatMap (codePieces x)
    (scanCodes x sink range count code s).1 = (s.writer.storeAll sink pieces).1 ∧
      (scanCodes x sink range count code s).2.writer = (s.writer.storeAll sink pieces).2 := by
  induction count generalizing code s with
  | zero => exact ⟨rfl, rfl⟩
  | succ count ih =>
    have step := scanCodeWriter x sink range code s
    simp only [Code.ascending, List.flatMap_cons, Csv.Writer.storeAllAppend]
    unfold scanCodes
    cases looked : scanCode x sink range code s with
    | mk fault next =>
      rw [looked] at step
      cases stored : s.writer.storeAll sink (codePieces x code) with
      | mk result writer =>
        rw [stored] at step
        obtain ⟨rfl, rfl⟩ := step
        cases fault with
        | none => exact ih (code + 1) next
        | some fault => exact ⟨rfl, rfl⟩

theorem scanRangeWriter :
    (scanRange x sink range).1 = (({} : Csv.Writer).storeAll sink (documentPieces x range)).1 ∧
      (scanRange x sink range).2.writer =
        (({} : Csv.Writer).storeAll sink (documentPieces x range)).2 := by
  unfold scanRange documentPieces
  rw [Csv.Writer.storeAllAppend, CodeRange.codesAscending]
  simp only [Csv.Writer.record]
  cases ({} : Csv.Writer).storeAll sink (recordPieces headerFields.1 headerFields.2) with
  | mk fault writer =>
    cases fault with
    | none => exact scanCodesWriter x sink range range.count range.start _
    | some fault => exact ⟨rfl, rfl⟩

variable {x sink range}

theorem scanCodeStats {code : Code} {s s' : Scan}
    (h : scanCode x sink range code s = (none, s')) : s'.stats = s.stats.after (x.record code) := by
  unfold scanCode at h
  cases found : x.record code with
  | error e =>
    simp only [found] at h
    cases h
    rfl
  | ok row =>
    simp only [found] at h
    split at h
    · cases h
    · cases h
      rfl

theorem scanCodesStats {count : Nat} {code : Code} {s s' : Scan}
    (h : scanCodes x sink range count code s = (none, s')) :
    s'.stats = (Code.ascending count code).foldl (fun t c => t.after (x.record c)) s.stats := by
  induction count generalizing code s with
  | zero =>
    cases h
    rfl
  | succ count ih =>
    unfold scanCodes at h
    split at h
    · rename_i next looked
      rw [ih h, scanCodeStats looked]
      rfl
    · rename_i failed
      exact absurd h (failed s')

theorem scanRangeStats {s : Scan} (h : scanRange x sink range = (none, s)) :
    s.stats = totals x range := by
  unfold scanRange at h
  split at h
  · cases h
  · rw [scanCodesStats h, totals, CodeRange.codesAscending]

end Export
end CrsExport
