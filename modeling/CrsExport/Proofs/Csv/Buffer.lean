import CrsExport.Csv.Writer
import CrsExport.Proofs.Csv.Answers
/-! The buffer between a document and its sink. Whatever has been stored is with the sink or
still in the buffer, in this order; a drain only moves the border between the two. -/

namespace CrsExport.Csv.Writer

/-- A writer in which `bytes` have been stored, before any call has failed and before any
flush call. -/
structure Carries (w : Writer) (bytes : List UInt8) : Prop where
  content : w.outlet.accepted.toList ++ w.held.toList = bytes
  smooth : ∀ c ∈ w.outlet.calls.toList, ¬ c.Fails
  unflushed : w.outlet.flushes = 0

variable {sink : Sink} {w w' : Writer} {fault : FileFault} {bytes : List UInt8} {piece : Piece}
  {pieces : List Piece}

theorem freshCarries : Carries {} [] := ⟨rfl, by simp, rfl⟩

theorem drainTransfer (sink : Sink) (w : Writer) : ∃ calls,
    Transfer w.held.toList calls (w.drain sink).1 ∧
      w.outlet.Gains (w.drain sink).2.outlet (w.held.toList.take (totalTaken calls)) calls ∧
      (w.drain sink).2.held = if (w.drain sink).1 = none then #[] else w.held := by
  obtain ⟨calls, transfer, gains⟩ := Outlet.writeAllTransfer sink w.held.toList w.outlet
  unfold drain
  cases written : w.outlet.writeAll sink w.held.toList with
  | mk fault outlet =>
    rw [written] at transfer gains
    cases fault with
    | none => exact ⟨calls, transfer, gains, rfl⟩
    | some fault => exact ⟨calls, transfer, gains, rfl⟩

theorem drainDone (h : w.drain sink = (none, w')) (carries : w.Carries bytes) :
    w'.Carries bytes ∧ w'.held = #[] := by
  obtain ⟨calls, transfer, ⟨accepted, log, flushes⟩, empty⟩ := drainTransfer sink w
  rw [h] at transfer accepted log flushes empty
  obtain ⟨total, smooth⟩ := transferComplete transfer
  have empty : w'.held = #[] := empty
  rw [total, List.take_length] at accepted
  refine ⟨⟨?_, ?_, flushes.trans carries.unflushed⟩, empty⟩
  · rw [accepted, empty, ← carries.content]
    simp
  · intro c hc
    rw [log] at hc
    rcases List.mem_append.mp hc with old | new
    · exact carries.smooth c old
    · exact smooth c new

/-- A writer whose calls have come about at a sink, none of them with more on offer than fits the
buffer. -/
structure Follows (w : Writer) (sink : Sink) : Prop where
  outlet : w.outlet.Follows sink
  held : w.held.size ≤ capacity
  offered : ∀ c ∈ w.outlet.calls.toList, c.offered ≤ capacity

theorem freshFollows (sink : Sink) : Follows {} sink :=
  ⟨Outlet.freshFollows sink, Nat.zero_le _, by simp⟩

theorem drainFollows (h : w.Follows sink) : (w.drain sink).2.Follows sink := by
  obtain ⟨calls, transfer, gains, kept⟩ := drainTransfer sink w
  refine ⟨?_, ?_, ?_⟩
  · have written := Outlet.writeAllFollows w.held.toList h.outlet
    unfold drain
    split
    · rename_i outlet done
      rwa [done] at written
    · rename_i fault outlet broken
      rwa [broken] at written
  · rw [kept]
    split
    · exact Nat.zero_le _
    · exact h.held
  · rw [gains.calls]
    exact List.forall_mem_append.mpr
      ⟨h.offered, fun c hc => Nat.le_trans (transferOffers transfer c hc) h.held⟩

theorem holdSize (w : Writer) (piece : Piece) :
    (w.hold piece).held.size = w.held.size + piece.length := by
  have all : (w.hold piece).held.toList = w.held.toList ++ piece := by simp [hold]
  rw [← Array.length_toList, all, List.length_append, Array.length_toList]

theorem storeFollows (h : w.Follows sink) (small : piece.length ≤ capacity) :
    (w.store sink piece).2.Follows sink := by
  unfold store
  split
  · rename_i fits
    exact ⟨h.outlet, by rwa [holdSize], h.offered⟩
  · have drained := drainFollows h
    split
    · rename_i next done
      obtain ⟨calls, _, _, kept⟩ := drainTransfer sink w
      rw [done] at drained kept
      have size : (next.hold piece).held.size = piece.length := by
        rw [holdSize, kept]
        exact Nat.zero_add _
      exact ⟨drained.outlet, by rwa [size], drained.offered⟩
    · exact drained

theorem storeAllFollows (h : w.Follows sink) (small : ∀ piece ∈ pieces, piece.length ≤ capacity) :
    (w.storeAll sink pieces).2.Follows sink := by
  induction pieces generalizing w with
  | nil => exact h
  | cons piece rest ih =>
    obtain ⟨first, others⟩ := List.forall_mem_cons.mp small
    have stored := storeFollows h first
    unfold storeAll
    split
    · rename_i next done
      rw [done] at stored
      exact ih stored others
    · exact stored

theorem flushFollows (h : w.Follows sink) : (w.flush sink).2.Follows sink := by
  have drained := drainFollows h
  unfold flush
  split
  · rename_i next done
    rw [done] at drained
    exact ⟨⟨drained.outlet.answered, drained.outlet.taken⟩, drained.held, drained.offered⟩
  · exact drained

theorem holdCarries (carries : w.Carries bytes) : (w.hold piece).Carries (bytes ++ piece) := by
  obtain ⟨content, smooth, unflushed⟩ := carries
  exact ⟨by simp [hold, ← content], smooth, unflushed⟩

theorem storeDone (h : w.store sink piece = (none, w')) (carries : w.Carries bytes) :
    w'.Carries (bytes ++ piece) := by
  unfold store at h
  split at h
  · cases h
    exact holdCarries carries
  · split at h
    · rename_i drained done
      cases h
      exact holdCarries (drainDone done carries).1
    · rename_i failed
      exact absurd h (failed w')

theorem storeBroken (h : w.store sink piece = (some fault, w')) :
    capacity < w.held.size + piece.length ∧ w.drain sink = (some fault, w') := by
  unfold store at h
  split at h
  · cases h
  · rename_i full
    split at h
    · cases h
    · exact ⟨Nat.lt_of_not_le full, h⟩

theorem storeAllDone (h : w.storeAll sink pieces = (none, w')) (carries : w.Carries bytes) :
    w'.Carries (bytes ++ pieces.flatten) := by
  induction pieces generalizing w bytes with
  | nil =>
    cases h
    simpa using carries
  | cons piece rest ih =>
    unfold storeAll at h
    split at h
    · rename_i stored done
      have next := ih h (storeDone done carries)
      rwa [List.append_assoc, ← List.flatten_cons] at next
    · rename_i failed
      exact absurd h (failed w')

/- The first failure is that of a drain for a piece that does not fit. -/
theorem storeAllBroken (h : w.storeAll sink pieces = (some fault, w')) :
    ∃ stored piece rest before, pieces = stored ++ piece :: rest ∧
      w.storeAll sink stored = (none, before) ∧
      capacity < before.held.size + piece.length ∧ before.drain sink = (some fault, w') := by
  induction pieces generalizing w with
  | nil => cases h
  | cons piece rest ih =>
    unfold storeAll at h
    split at h
    · rename_i next done
      obtain ⟨stored, late, behind, before, split, reached, full, broken⟩ := ih h
      refine ⟨piece :: stored, late, behind, before, by rw [split, List.cons_append], ?_, full,
        broken⟩
      rw [storeAll, done]
      exact reached
    · obtain ⟨full, broken⟩ := storeBroken h
      exact ⟨[], piece, rest, w, rfl, rfl, full, broken⟩

theorem storeAllAppend (first second : List Piece) :
    w.storeAll sink (first ++ second) =
      match w.storeAll sink first with
      | (none, next) => next.storeAll sink second
      | failed => failed := by
  induction first generalizing w with
  | nil => rfl
  | cons piece rest ih =>
    rw [List.cons_append, storeAll, storeAll]
    cases stored : w.store sink piece with
    | mk result next =>
      cases result with
      | none => exact ih
      | some fault => rfl

/- A piece that does not fit, and for which the buffer cannot be drained, ends it all. -/
theorem storeAllStops {before : Writer} {stored rest : List Piece}
    (reached : w.storeAll sink stored = (none, before))
    (full : capacity < before.held.size + piece.length)
    (broken : before.drain sink = (some fault, w')) :
    w.storeAll sink (stored ++ piece :: rest) = (some fault, w') := by
  have stops : before.store sink piece = (some fault, w') := by
    rw [store, if_neg (Nat.not_le_of_lt full), broken]
  rw [storeAllAppend, reached]
  simp only [storeAll, stops]

theorem flushDone (h : w.flush sink = (none, w')) (carries : w.Carries bytes) :
    w'.held = #[] ∧ w'.outlet.accepted.toList = bytes ∧
      (∀ c ∈ w'.outlet.calls.toList, ¬ c.Fails) ∧ w'.outlet.flushes = 1 ∧
      sink.flush 1 = none := by
  unfold flush at h
  split at h
  · rename_i drained done
    obtain ⟨⟨content, smooth, unflushed⟩, empty⟩ := drainDone done carries
    simp only [Outlet.flush, unflushed, Prod.mk.injEq] at h
    obtain ⟨flushed, rfl⟩ := h
    rw [empty] at content
    exact ⟨empty, by simpa using content, smooth, rfl, flushed⟩
  · rename_i failed
    exact absurd h (failed w')

theorem flushBroken (h : w.flush sink = (some fault, w')) :
    w.drain sink = (some fault, w') ∨
      ∃ drained outlet, w.drain sink = (none, drained) ∧
        drained.outlet.flush sink = (some fault, outlet) ∧ w' = { drained with outlet } := by
  unfold flush at h
  split at h
  · rename_i drained done
    simp only [Prod.mk.injEq] at h
    obtain ⟨refused, rfl⟩ := h
    exact .inr ⟨drained, _, done, Prod.ext refused rfl, rfl⟩
  · exact .inl h

theorem closeDrains (sink : Sink) (w : Writer) :
    (w.close sink).accepted = (w.drain sink).2.outlet.accepted ∧
      (w.close sink).calls = (w.drain sink).2.outlet.calls := by
  unfold close flush
  cases w.drain sink with
  | mk fault drained =>
    cases fault with
    | none => exact ⟨rfl, rfl⟩
    | some fault => exact ⟨rfl, rfl⟩

theorem closeEmpty (empty : w.held = #[]) (sink : Sink) :
    w.close sink = { w.outlet with flushes := w.outlet.flushes + 1 } := by
  unfold close flush drain
  rw [empty, Outlet.writeAllNil]
  rfl

end CrsExport.Csv.Writer
