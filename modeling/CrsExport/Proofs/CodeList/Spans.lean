import CrsExport.CodeList
/-! The spans of a code list that has been read. Each stands for one entry, and none is turned
around, so it has both of its ends in it. -/

namespace CrsExport.CodeList

variable {entry list : Text} {es : List Text} {s : CodeSpan} {spans : List CodeSpan}

theorem entryOrdered (h : readEntry entry = some s) : s.first ≤ s.last := by
  unfold readEntry at h
  split at h
  · split at h
    · split at h
      · rename_i ordered
        cases h
        exact ordered
      · cases h
    · cases h
  · obtain ⟨c, _, rfl⟩ := Option.map_eq_some_iff.mp h
    exact UInt32.le_refl c

theorem readEntriesCons : readEntries (entry :: es) = .ok spans ↔
    ∃ s more, readEntry entry = some s ∧ readEntries es = .ok more ∧ spans = s :: more := by
  rw [readEntries]
  cases readEntry entry with
  | none => simp
  | some s =>
    cases readEntries es with
    | error e => simp [Except.map]
    | ok more => simp [Except.map, eq_comm]

theorem readEntriesOrdered (h : readEntries es = .ok spans) : ∀ s ∈ spans, s.first ≤ s.last := by
  induction es generalizing spans with
  | nil =>
    cases h
    simp
  | cons entry es ih =>
    obtain ⟨s, more, read, rest, rfl⟩ := readEntriesCons.mp h
    exact List.forall_mem_cons.mpr ⟨entryOrdered read, ih rest⟩

theorem parsedOrdered (h : parse list = .ok spans) : ∀ s ∈ spans, s.first ≤ s.last :=
  readEntriesOrdered h

end CrsExport.CodeList
