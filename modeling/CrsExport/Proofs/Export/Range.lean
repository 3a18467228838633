import Mathlib.Data.List.Nodup
import CrsExport.Export.Range
/-! The codes of a range: every number from its start up to but not including its stop, each
once and in ascending order. Consecutive ranges share no code and leave none out. -/

namespace CrsExport

/- The codes as a scan comes to them, each one more than the code before it. -/
def Code.ascending : (count : Nat) → (first : Code) → List Code
  | 0, _ => []
  | count + 1, first => first :: ascending count (first + 1)

theorem ascendingOfNat (count n : Nat) :
    Code.ascending count (UInt32.ofNat n) = (List.range' n count).map UInt32.ofNat := by
  induction count generalizing n with
  | zero => rfl
  | succ count ih =>
    have next : UInt32.ofNat n + 1 = UInt32.ofNat (n + 1) := by simp
    rw [Code.ascending, next, ih, List.range'_succ, List.map_cons]

namespace CodeRange

theorem countValue (r : CodeRange) : r.count = r.stop.toNat - r.start.toNat :=
  UInt32.toNat_sub_of_le r.stop r.start (UInt32.le_of_lt r.ascending)

theorem codesAscending (r : CodeRange) : r.codes = Code.ascending r.count r.start := by
  have start : UInt32.ofNat r.start.toNat = r.start := UInt32.ofNat_toNat
  have scanned := ascendingOfNat r.count r.start.toNat
  rw [start] at scanned
  rw [scanned, codes, firstCodes, Nat.min_self]

theorem codesToNat (r : CodeRange) :
    r.codes.map UInt32.toNat = List.range' r.start.toNat (r.stop.toNat - r.start.toNat) := by
  rw [codes, firstCodes, Nat.min_self, List.map_map, countValue]
  have same : ∀ n ∈ List.range' r.start.toNat (r.stop.toNat - r.start.toNat),
      (UInt32.toNat ∘ UInt32.ofNat) n = n := by
    intro n hn
    have bound := List.mem_range'_1.mp hn
    have limit := r.stop.toNat_lt
    exact UInt32.toNat_ofNat_of_lt' (by simp only [UInt32.size]; omega)
  rw [List.map_congr_left same, List.map_id']

theorem codesMem {r : CodeRange} {c : Code} : c ∈ r.codes ↔ r.start ≤ c ∧ c < r.stop := by
  have injective : Function.Injective UInt32.toNat := fun _ _ => UInt32.toNat_inj.mp
  have bounds := UInt32.lt_iff_toNat_lt.mp r.ascending
  rw [← List.mem_map_of_injective injective, codesToNat, List.mem_range'_1,
    UInt32.le_iff_toNat_le, UInt32.lt_iff_toNat_lt]
  omega

theorem codesSorted (r : CodeRange) : r.codes.Pairwise (· < ·) := by
  have sorted : (r.codes.map UInt32.toNat).Pairwise (· < ·) :=
    r.codesToNat ▸ List.pairwise_lt_range'
  exact (List.pairwise_map.mp sorted).imp UInt32.lt_iff_toNat_lt.mpr

theorem codesDistinct (r : CodeRange) : r.codes.Nodup := by
  have distinct : (r.codes.map UInt32.toNat).Nodup := r.codesToNat ▸ List.nodup_range'
  exact distinct.of_map UInt32.toNat

theorem codesJoin {whole front back : CodeRange} (starts : front.start = whole.start)
    (meets : front.stop = back.start) (ends : back.stop = whole.stop) :
    whole.codes = front.codes ++ back.codes := by
  have low := UInt32.lt_iff_toNat_lt.mp front.ascending
  have high := UInt32.lt_iff_toNat_lt.mp back.ascending
  rw [meets, starts] at low
  rw [ends] at high
  have seam : back.start.toNat = whole.start.toNat + (back.start.toNat - whole.start.toNat) := by
    omega
  have lengths : whole.stop.toNat - whole.start.toNat =
      (back.start.toNat - whole.start.toNat) + (whole.stop.toNat - back.start.toNat) := by omega
  have same : whole.codes.map UInt32.toNat = (front.codes ++ back.codes).map UInt32.toNat := by
    rw [List.map_append, codesToNat, codesToNat, codesToNat, starts, meets, ends, lengths,
      ← List.range'_append_1, ← seam]
  exact List.map_injective_iff.mpr (fun _ _ => UInt32.toNat_inj.mp) same

end CodeRange
end CrsExport
