import CrsExport.Proofs.Export.Delivery
import CrsExport.Resolver.Builtin
/-! What a failed export leaves with its sink. The document is cut at some byte of the buffer
that could not be drained, and what follows the cut starts again at the front of that buffer:
bytes that had already been taken are then there twice. -/

namespace CrsExport

namespace Outlet

/- Both say how the sink has answered in a run, whatever it would have done otherwise. -/

def AllOrNothing (o : Outlet) : Prop := ∀ c ∈ o.calls.toList, c.taken = 0 ∨ c.taken = c.offered

def QuietAfterFailure (o : Outlet) : Prop :=
  ∀ earlier failed later, o.calls.toList = earlier ++ failed :: later → failed.Fails →
    ∀ c ∈ later, c.taken = 0

end Outlet

namespace Sink

def AllOrNothing (sink : Sink) : Prop :=
  ∀ call taken offered count, sink.reply call taken offered = .accept count →
    count = 0 ∨ offered ≤ count

def QuietAfterFailure (sink : Sink) : Prop :=
  ∀ call taken offered, ¬ sink.Accepts call taken offered →
    ∀ later > call, ∀ more, ¬ sink.Accepts later taken more

variable {sink : Sink} {o : Outlet} {made taken : Nat} {calls : List WriteCall}

theorem wholeCalls (whole : sink.AllOrNothing) (h : o.Follows sink) : o.AllOrNothing := by
  intro c hc
  obtain ⟨earlier, later, split⟩ := List.append_of_mem hc
  by_cases waiting : c.answer = .interrupted
  · exact .inl (by simp [WriteCall.taken, WriteCall.taken?, waiting])
  · obtain ⟨_, same, _⟩ := answeredAt h.answered split waiting
    unfold Sink.answer at same
    split at same
    · rename_i count accepted
      have all := whole _ _ _ count accepted
      have took : c.taken = min count c.offered := by
        simp [WriteCall.taken, WriteCall.taken?, same]
      omega
    · exact .inl (by simp [WriteCall.taken, WriteCall.taken?, same])

theorem spentCalls (spent : ∀ call > made, ∀ offered, ¬ sink.Accepts call taken offered)
    (h : Answered sink made taken calls) : ∀ c ∈ calls, c.taken = 0 := by
  induction h with
  | none => simp
  | @call made taken waits calls c interrupted some answer _ ih =>
    have fails : c.Fails := by
      have refused := spent (made + waits + 1) (by omega) c.offered
      rwa [acceptsIff some answer, not_not] at refused
    have nothing := failsTakesNothing fails
    rw [nothing, Nat.add_zero] at ih
    refine List.forall_mem_append.mpr ⟨fun d hd => ?_, List.forall_mem_cons.mpr ⟨nothing, ?_⟩⟩
    · rw [List.eq_of_mem_replicate hd]
      rfl
    · exact ih fun call behind => spent call (by omega)

theorem quietCalls (quiet : sink.QuietAfterFailure) (h : o.Follows sink) :
    o.QuietAfterFailure := by
  intro earlier failed later split fails
  have through : failed.answer ≠ .interrupted := failsThrough fails
  obtain ⟨some, same, next⟩ := answeredAt h.answered split through
  rw [failsTakesNothing fails, Nat.add_zero] at next
  have refused : ¬ sink.Accepts _ _ failed.offered :=
    fun accepts => (acceptsIff some same).mp accepts fails
  exact spentCalls (quiet _ _ _ refused) next

/- A sink with room for so many bytes, and for none of those behind them. -/
def holding (room : Nat) : Sink where
  interruptions _ := 0
  reply _ taken _ :=
    if taken < room then .accept (room - taken)
    else .refuse (.other (text "No space left on device (os error 28)"))
  flush _ := none

theorem holdingAccepts {room call offered : Nat} :
    (holding room).Accepts call taken offered ↔ taken < room := by
  unfold Accepts holding
  by_cases left : taken < room
  · simp [left, Nat.sub_pos_of_lt left]
  · simp [left]

theorem holdingQuiet (room : Nat) : (holding room).QuietAfterFailure := by
  intro call taken offered refused later _ more accepts
  exact refused (holdingAccepts.mpr (holdingAccepts.mp accepts))

end Sink

namespace Export
open Csv (Piece)

variable {sink : Sink} {pieces : List Piece} {e : ExportError} {w w' : Csv.Writer}
  {drain retry : List WriteCall}

theorem cutWithin {a held rest : List UInt8} {k : Nat} (fits : k ≤ held.length) :
    (a ++ held ++ rest).take (a.length + k) = a ++ held.take k ∧
      ((a ++ held ++ rest).drop a.length).take k = held.take k := by
  rw [List.append_assoc]
  refine ⟨?_, ?_⟩
  · rw [List.take_length_add_append, List.take_append_of_le_length fits]
  · rw [List.drop_left, List.take_append_of_le_length fits]

/- A cut and a second start in one run need a drain that fails halfway and a sink that takes
more afterwards. -/
theorem endingClean (ending : Ending sink w w' drain retry)
    (h : (w'.close sink).AllOrNothing ∨ (w'.close sink).QuietAfterFailure) :
    totalTaken drain = 0 ∨ totalTaken retry = 0 := by
  cases drained : (w.drain sink).1 with
  | none =>
    rcases ending.second with ⟨_, rfl⟩ | ⟨failed, _⟩
    · exact .inr rfl
    · exact absurd drained failed
  | some fault =>
    have first := ending.first
    rw [drained] at first
    obtain ⟨short, earlier, last, split, fails, _⟩ := transferBroken first
    rcases h with whole | quiet
    · have inDrain : ∀ c ∈ drain, c.taken = 0 ∨ c.taken = c.offered := by
        intro c hc
        apply whole
        rw [ending.calls]
        simp [hc]
      rcases transferWhole first inDrain with none | all
      · exact .inl none
      · omega
    · have idle : ∀ c ∈ retry, c.taken = 0 := by
        apply quiet (w.outlet.calls.toList ++ earlier) last retry _ fails
        rw [ending.calls, split]
        simp
      exact .inr (noneTaken idle)

theorem retryBound (ending : Ending sink w w' drain retry) :
    totalTaken retry ≤ w.held.size := by
  rcases ending.second with ⟨_, rfl⟩ | ⟨_, fault?, again⟩
  · exact Nat.zero_le _
  · exact transferBound again

theorem documentReached {x : Exporter} {range : CodeRange}
    (h : Breakdown sink (documentPieces x range) e w w') :
    (∀ c ∈ w.outlet.calls.toList, ¬ c.Fails) ∧
      ∃ rest, document x range = w.outlet.accepted.toList ++ w.held.toList ++ rest := by
  obtain ⟨bytes, rest, carries, split⟩ := breakdownReached h
  rw [documentFlatten, ← carries.content] at split
  exact ⟨carries.smooth, rest, split⟩

theorem endingPrefix {rest : List UInt8} (ending : Ending sink w w' drain retry)
    (clean : totalTaken drain = 0 ∨ totalTaken retry = 0) :
    (w'.close sink).accepted.toList <+: w.outlet.accepted.toList ++ w.held.toList ++ rest := by
  have front (n : Nat) : w.outlet.accepted.toList ++ w.held.toList.take n <+:
      w.outlet.accepted.toList ++ w.held.toList ++ rest := by
    rw [List.append_assoc, List.prefix_append_right_inj]
    exact (List.take_prefix n _).trans (List.prefix_append _ _)
  rw [ending.retried, ending.drained]
  rcases clean with none | none
  · rw [none, List.take_zero, List.append_nil]
    exact front _
  · rw [none, List.take_zero, List.append_nil]
    exact front _

/- Whether it fails or not: the whole document is a prefix too. -/
theorem takenPrefix (x : Exporter) (sink : Sink) (range : CodeRange)
    (h : (toSink x sink range).outlet.AllOrNothing ∨
      (toSink x sink range).outlet.QuietAfterFailure) :
    (toSink x sink range).outlet.accepted.toList <+: document x range := by
  cases result : (toSink x sink range).result with
  | ok stats =>
    obtain ⟨_, accepted, _⟩ := succeededWhole result
    exact accepted ▸ List.prefix_refl _
  | error e =>
    obtain ⟨w, w', breakdown⟩ := failedBreaks result
    obtain ⟨drain, retry, ending⟩ := breakdownEnding breakdown
    obtain ⟨_, rest, split⟩ := documentReached breakdown
    rw [(brokenFails breakdown).2] at h ⊢
    rw [split]
    exact endingPrefix ending (endingClean ending h)

/- The document `d` is `q` bytes that are with the sink before the last drain, the bytes in
the buffer, and a rest. Of the buffer that drain takes `k` bytes, and the retry `j`. -/
theorem exportFailsWithin (x : Exporter) (sink : Sink) (range : CodeRange) :
    let run := toSink x sink range
    let d := document x range
    (∀ e, run.result = .error e ↔ ∃ w w', Breakdown sink (documentPieces x range) e w w') ∧
    (∀ e w w', Breakdown sink (documentPieces x range) e w w' →
      run.outlet = w'.close sink ∧ (∀ c ∈ w.outlet.calls.toList, ¬ c.Fails) ∧
      ∃ q k j, q + w.held.size ≤ d.length ∧ k ≤ w.held.size ∧ j ≤ w.held.size ∧
        w.outlet.accepted.toList = d.take q ∧
        w.held.toList = (d.drop q).take w.held.size ∧
        w'.outlet.accepted.toList = d.take (q + k) ∧
        run.outlet.accepted.toList = d.take (q + k) ++ (d.drop q).take j ∧
        ((w.drain sink).1 = none → k = w.held.size ∧ j = 0)) ∧
    (run.outlet.AllOrNothing ∨ run.outlet.QuietAfterFailure →
      run.outlet.accepted.toList <+: d) ∧
    run.outlet.Follows sink ∧
    (sink.AllOrNothing ∨ sink.QuietAfterFailure → run.outlet.accepted.toList <+: d) := by
  intro run d
  have follows := (toSinkFollows x sink range).1
  refine ⟨fun e => ⟨failedBreaks, fun ⟨w, w', h⟩ => (brokenFails h).1⟩, ?_,
    takenPrefix x sink range, follows, fun kind => takenPrefix x sink range
      (kind.imp (Sink.wholeCalls · follows) (Sink.quietCalls · follows))⟩
  intro e w w' breakdown
  have outlet : run.outlet = w'.close sink := (brokenFails breakdown).2
  obtain ⟨drain, retry, ending⟩ := breakdownEnding breakdown
  obtain ⟨smooth, rest, split⟩ := documentReached breakdown
  have split : d = w.outlet.accepted.toList ++ w.held.toList ++ rest := split
  have once : totalTaken drain ≤ w.held.size := transferBound ending.first
  have again : totalTaken retry ≤ w.held.size := retryBound ending
  have whole : w.held.size ≤ w.held.toList.length := Nat.le_refl _
  -- the last drain begins where the sink has got to, and both calls for its bytes stay within
  -- the buffer
  refine ⟨outlet, smooth, w.outlet.accepted.toList.length, totalTaken drain,
    totalTaken retry, ?_, once, again, ?_, ?_, ?_, ?_, ?_⟩
  · rw [split]
    simp
  · rw [split]
    simp
  · rw [split, (cutWithin whole).2]
    exact List.take_length.symm
  · rw [split, (cutWithin once).1]
    exact ending.drained
  · rw [split, (cutWithin once).1, (cutWithin again).2, outlet, ending.retried,
      ending.drained]
  · intro passed
    have first := ending.first
    rw [passed] at first
    rcases ending.second with ⟨_, rfl⟩ | ⟨failed, _⟩
    · exact ⟨(transferComplete first).1, rfl⟩
    · exact absurd passed failed

/- Takes five bytes, refuses the next call, and goes on. -/
def halting : Sink where
  interruptions _ := 0
  reply call _ offered :=
    if call = 1 then .accept 5 else if call = 2 then .refuse .writeZero else .accept offered
  flush _ := none

def rowless : Exporter where
  resolver := Database.resolver fun _ => none

/- The five bytes are there twice, which a sink of neither kind could have brought about. -/
theorem haltingTakesTwice :
    let range : CodeRange := ⟨1, 2, by decide, by decide⟩
    let run := toSink rowless halting range
    let kept := toSink rowless (Sink.holding 5) range
    (∃ e w w', Breakdown halting (documentPieces rowless range) e w w') ∧
      run.outlet.accepted.toList = Text.utf8 (text "EPSG EPSG Code,PROJ Definition\n") ∧
      ¬ run.outlet.AllOrNothing ∧ ¬ run.outlet.QuietAfterFailure ∧
      ¬ halting.AllOrNothing ∧ ¬ halting.QuietAfterFailure ∧
      (Sink.holding 5).QuietAfterFailure ∧ kept.result.isOk = false ∧
      kept.outlet.accepted.toList = Text.utf8 (text "EPSG ") ∧
      kept.outlet.accepted.toList <+: document rowless range := by
  intro range run kept
  obtain ⟨errors, _, clean, _, cleanly⟩ := exportFailsWithin rowless halting range
  obtain ⟨_, _, _, _, short⟩ := exportFailsWithin rowless (Sink.holding 5) range
  have quiet := Sink.holdingQuiet 5
  have taken : run.outlet.accepted.toList =
      Text.utf8 (text "EPSG EPSG Code,PROJ Definition\n") := by decide +kernel
  have torn : ¬ run.outlet.accepted.toList <+: document rowless range := by decide +kernel
  have failed : run.result.isOk = false := by decide +kernel
  cases result : run.result with
  | ok stats =>
    rw [result] at failed
    contradiction
  | error e =>
    obtain ⟨w, w', breakdown⟩ := (errors e).mp result
    exact ⟨⟨e, w, w', breakdown⟩, taken, fun whole => torn (clean (.inl whole)),
      fun quiet => torn (clean (.inr quiet)), fun whole => torn (cleanly (.inl whole)),
      fun quiet => torn (cleanly (.inr quiet)), quiet, by decide +kernel, by decide +kernel,
      short (.inr quiet)⟩

end Export
end CrsExport
