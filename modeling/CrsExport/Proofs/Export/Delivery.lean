import CrsExport.Proofs.Csv.ReadBack
import CrsExport.Proofs.Export.Scan
/-! How an export ends. What reaches the sink depends on the document alone, not on the codes
that it was made from. A document goes over as a whole, or up to the drain that fails; what
that drain has left in the buffer is offered once more, from its start, when the writer is
given up. -/

namespace CrsExport
open Csv (Piece)

namespace Export

/- The end of an export without the scan: the document is stored piece by piece. -/
def deliver (sink : Sink) (pieces : List Piece) : Option ExportError × Outlet :=
  match ({} : Csv.Writer).storeAll sink pieces with
  | (some fault, w) => (some (.csv fault), w.close sink)
  | (none, w) =>
    match w.flush sink with
    | (some fault, w) => (some (.file fault), w.close sink)
    | (none, w) => (none, w.close sink)

theorem toSinkDelivers (x : Exporter) (sink : Sink) (range : CodeRange) :
    (toSink x sink range).outlet = (deliver sink (documentPieces x range)).2 ∧
      (toSink x sink range).result =
        match (deliver sink (documentPieces x range)).1 with
        | none => .ok (totals x range)
        | some e => .error e := by
  obtain ⟨result, writer⟩ := scanRangeWriter x sink range
  unfold toSink deliver
  cases scanned : scanRange x sink range with
  | mk fault s =>
    rw [scanned] at result writer
    cases stored : ({} : Csv.Writer).storeAll sink (documentPieces x range) with
    | mk fault w =>
      rw [stored] at result writer
      obtain ⟨rfl, rfl⟩ := And.intro result writer
      cases fault with
      | some fault => exact ⟨rfl, rfl⟩
      | none =>
        dsimp only
        cases s.writer.flush sink with
        | mk fault w =>
          cases fault with
          | some fault => exact ⟨rfl, rfl⟩
          | none => exact ⟨rfl, by rw [scanRangeStats scanned]⟩

/-- Where an export breaks down: the error that it ends with, the writer before the drain at
fault, and the writer that is given up. While the header or a row is stored, a drain makes
room for a piece that does not fit; at the end the buffer is drained once more and the sink
asked to flush. -/
inductive Breakdown (sink : Sink) (pieces : List Piece) :
    ExportError → Csv.Writer → Csv.Writer → Prop where
  | storing {stored piece rest w w' fault} (split : pieces = stored ++ piece :: rest)
      (reached : ({} : Csv.Writer).storeAll sink stored = (none, w))
      (full : Csv.capacity < w.held.size + piece.length)
      (broken : w.drain sink = (some fault, w')) : Breakdown sink pieces (.csv fault) w w'
  | draining {w w' fault} (reached : ({} : Csv.Writer).storeAll sink pieces = (none, w))
      (broken : w.drain sink = (some fault, w')) : Breakdown sink pieces (.file fault) w w'
  | flushing {w drained outlet fault}
      (reached : ({} : Csv.Writer).storeAll sink pieces = (none, w))
      (done : w.drain sink = (none, drained))
      (broken : drained.outlet.flush sink = (some fault, outlet)) :
      Breakdown sink pieces (.file fault) w { drained with outlet }

variable {sink : Sink} {pieces : List Piece} {e : ExportError} {w w' : Csv.Writer} {o : Outlet}

theorem breakdownDelivers (h : Breakdown sink pieces e w w') :
    deliver sink pieces = (some e, w'.close sink) := by
  unfold deliver
  cases h with
  | storing split reached full broken =>
    rw [split, Csv.Writer.storeAllStops reached full broken]
  | draining reached broken =>
    rw [reached]
    simp only [Csv.Writer.flush, broken]
  | flushing reached done broken =>
    rw [reached]
    simp only [Csv.Writer.flush, done, broken]

theorem undeliveredBreaks (h : deliver sink pieces = (some e, o)) :
    ∃ w w', Breakdown sink pieces e w w' := by
  unfold deliver at h
  split at h
  · rename_i fault w' stored
    obtain ⟨before, piece, rest, w, split, reached, full, broken⟩ :=
      Csv.Writer.storeAllBroken stored
    cases h
    exact ⟨w, w', .storing split reached full broken⟩
  · rename_i w reached
    split at h
    · rename_i fault w' flushed
      cases h
      rcases Csv.Writer.flushBroken flushed with broken | ⟨drained, outlet, done, broken, rfl⟩
      · exact ⟨w, w', .draining reached broken⟩
      · exact ⟨w, _, .flushing reached done broken⟩
    · cases h

/- A document that is delivered has gone over whole, and no call has failed. -/
theorem deliveredWhole (h : deliver sink pieces = (none, o)) :
    o.accepted.toList = pieces.flatten ∧ (∀ c ∈ o.calls.toList, ¬ c.Fails) ∧
      o.flushes = 2 ∧ sink.flush 1 = none := by
  unfold deliver at h
  split at h
  · cases h
  · rename_i w stored
    split at h
    · cases h
    · rename_i w' flushed
      have carries := Csv.Writer.storeAllDone stored Csv.Writer.freshCarries
      obtain ⟨empty, accepted, smooth, flushes, first⟩ := Csv.Writer.flushDone flushed carries
      rw [Csv.Writer.closeEmpty empty] at h
      cases h
      exact ⟨accepted, smooth, by simp [flushes], first⟩

/- The drain at fault finds a front of the document: with the sink, and then in the buffer. -/
theorem breakdownReached (h : Breakdown sink pieces e w w') :
    ∃ bytes rest, w.Carries bytes ∧ pieces.flatten = bytes ++ rest := by
  cases h with
  | @storing stored piece rest w w' fault split reached full broken =>
    have carries := Csv.Writer.storeAllDone reached Csv.Writer.freshCarries
    exact ⟨_, (piece :: rest).flatten, carries, by rw [split, List.flatten_append]; rfl⟩
  | draining reached broken =>
    exact ⟨_, [], Csv.Writer.storeAllDone reached Csv.Writer.freshCarries, by simp⟩
  | flushing reached done broken =>
    exact ⟨_, [], Csv.Writer.storeAllDone reached Csv.Writer.freshCarries, by simp⟩

/-- The calls of an export that breaks down, after those that filled the sink until then: the
ones of the last drain, and the ones that offer the same bytes again if it has failed. -/
structure Ending (sink : Sink) (w w' : Csv.Writer) (drain retry : List WriteCall) : Prop where
  first : Transfer w.held.toList drain (w.drain sink).1
  second : (w.drain sink).1 = none ∧ retry = [] ∨
    (w.drain sink).1 ≠ none ∧ ∃ fault?, Transfer w.held.toList retry fault?
  drained : w'.outlet.accepted.toList =
    w.outlet.accepted.toList ++ w.held.toList.take (totalTaken drain)
  retried : (w'.close sink).accepted.toList =
    w'.outlet.accepted.toList ++ w.held.toList.take (totalTaken retry)
  calls : (w'.close sink).calls.toList = w.outlet.calls.toList ++ drain ++ retry

theorem brokenEnding {fault : FileFault} (h : w.drain sink = (some fault, w')) :
    ∃ drain retry, Ending sink w w' drain retry := by
  obtain ⟨drain, first, gains, held⟩ := Csv.Writer.drainTransfer sink w
  obtain ⟨retry, second, again, _⟩ := Csv.Writer.drainTransfer sink w'
  obtain ⟨accepted, calls⟩ := Csv.Writer.closeDrains sink w'
  have failed : (w.drain sink).1 = some fault := congrArg Prod.fst h
  have kept : w'.held = w.held := by
    rw [h] at held
    exact held
  rw [kept] at second again
  rw [h] at gains
  refine ⟨drain, retry, first, .inr ⟨by simp [failed], _, second⟩, gains.accepted, ?_, ?_⟩
  · rw [accepted, again.accepted]
  · rw [calls, again.calls, gains.calls]

theorem breakdownEnding (h : Breakdown sink pieces e w w') :
    ∃ drain retry, Ending sink w w' drain retry := by
  cases h with
  | storing split reached full broken => exact brokenEnding broken
  | draining reached broken => exact brokenEnding broken
  | @flushing w drained outlet fault reached done broken =>
    obtain ⟨drain, first, gains, held⟩ := Csv.Writer.drainTransfer sink w
    have passed : (w.drain sink).1 = none := congrArg Prod.fst done
    rw [done] at gains held
    have empty : drained.held = #[] := held
    have asked : outlet = { drained.outlet with flushes := drained.outlet.flushes + 1 } :=
      (congrArg Prod.snd broken).symm
    -- with an empty buffer the retry makes no call
    have closed := Csv.Writer.closeEmpty (w := { drained with outlet }) empty sink
    refine ⟨drain, [], first, .inl ⟨passed, rfl⟩, ?_, ?_, ?_⟩
    · rw [asked]
      exact gains.accepted
    · rw [closed]
      simp [totalTaken]
    · rw [closed, asked, List.append_nil]
      exact gains.calls

/- Without a failed write call it is the first flush call that fails. -/
theorem breakdownFails (h : Breakdown sink pieces e w w') :
    (∃ c ∈ (w'.close sink).calls.toList, c.Fails) ∨ sink.flush 1 ≠ none := by
  obtain ⟨drain, retry, ending⟩ := breakdownEnding h
  cases drained : (w.drain sink).1 with
  | some fault =>
    have first := ending.first
    rw [drained] at first
    obtain ⟨_, earlier, last, split, fails, _⟩ := transferBroken first
    refine .inl ⟨last, ?_, fails⟩
    rw [ending.calls, split]
    simp
  | none =>
    cases h with
    | storing split reached full broken => simp [broken] at drained
    | draining reached broken => simp [broken] at drained
    | flushing reached done broken =>
      have carries := Csv.Writer.storeAllDone reached Csv.Writer.freshCarries
      have unflushed := (Csv.Writer.drainDone done carries).1.unflushed
      simp only [Outlet.flush, unflushed, Prod.mk.injEq] at broken
      exact .inr (by simp [broken.1])

variable {x : Exporter} {range : CodeRange} {stats : ExportStats}

theorem succeededWhole (h : (toSink x sink range).result = .ok stats) :
    stats = totals x range ∧
      (toSink x sink range).outlet.accepted.toList = document x range ∧
      (∀ c ∈ (toSink x sink range).outlet.calls.toList, ¬ c.Fails) ∧
      (toSink x sink range).outlet.flushes = 2 ∧ sink.flush 1 = none := by
  obtain ⟨outlet, result⟩ := toSinkDelivers x sink range
  cases delivered : deliver sink (documentPieces x range) with
  | mk error? out =>
    rw [delivered] at outlet result
    rw [h] at result
    cases error? with
    | some e => cases result
    | none =>
      obtain ⟨accepted, smooth, flushes, first⟩ := deliveredWhole delivered
      rw [outlet, ← documentFlatten]
      exact ⟨Except.ok.inj result, accepted, smooth, flushes, first⟩

theorem failedBreaks (h : (toSink x sink range).result = .error e) :
    ∃ w w', Breakdown sink (documentPieces x range) e w w' := by
  obtain ⟨outlet, result⟩ := toSinkDelivers x sink range
  cases delivered : deliver sink (documentPieces x range) with
  | mk error? out =>
    rw [delivered, h] at result
    cases error? with
    | none => cases result
    | some e' =>
      cases result
      exact undeliveredBreaks delivered

theorem brokenFails (h : Breakdown sink (documentPieces x range) e w w') :
    (toSink x sink range).result = .error e ∧
      (toSink x sink range).outlet = w'.close sink := by
  obtain ⟨outlet, result⟩ := toSinkDelivers x sink range
  rw [breakdownDelivers h] at outlet result
  exact ⟨result, outlet⟩

theorem deliverFollows (sink : Sink) (small : ∀ piece ∈ pieces, piece.length ≤ Csv.capacity) :
    (deliver sink pieces).2.Follows sink ∧
      ∀ c ∈ (deliver sink pieces).2.calls.toList, c.offered ≤ Csv.capacity := by
  have stored := Csv.Writer.storeAllFollows (Csv.Writer.freshFollows sink) small
  have closed : ∀ w : Csv.Writer, w.Follows sink → (w.close sink).Follows sink ∧
      ∀ c ∈ (w.close sink).calls.toList, c.offered ≤ Csv.capacity :=
    fun w h => ⟨(Csv.Writer.flushFollows h).outlet, (Csv.Writer.flushFollows h).offered⟩
  unfold deliver
  split
  · rename_i fault w broken
    rw [broken] at stored
    exact closed w stored
  · rename_i w done
    rw [done] at stored
    have flushed := Csv.Writer.flushFollows stored
    split
    · rename_i fault w broken
      rw [broken] at flushed
      exact closed w flushed
    · rename_i w done
      rw [done] at flushed
      exact closed w flushed

theorem toSinkFollows (x : Exporter) (sink : Sink) (range : CodeRange) :
    (toSink x sink range).outlet.Follows sink ∧
      ∀ c ∈ (toSink x sink range).outlet.calls.toList, c.offered ≤ Csv.capacity := by
  rw [(toSinkDelivers x sink range).1]
  exact deliverFollows sink pieceSmall

/- The flush call that counts is the first one. The second one is made when the writer is
given up. -/
theorem succeedsIff (x : Exporter) (sink : Sink) (range : CodeRange) :
    (∃ stats, (toSink x sink range).result = .ok stats) ↔
      (∀ c ∈ (toSink x sink range).outlet.calls.toList, ¬ c.Fails) ∧ sink.flush 1 = none := by
  constructor
  · intro ⟨stats, ok⟩
    obtain ⟨_, _, smooth, _, first⟩ := succeededWhole ok
    exact ⟨smooth, first⟩
  · intro ⟨smooth, first⟩
    cases result : (toSink x sink range).result with
    | ok stats => exact ⟨stats, rfl⟩
    | error e =>
      obtain ⟨w, w', breakdown⟩ := failedBreaks result
      rw [(brokenFails breakdown).2] at smooth
      rcases breakdownFails breakdown with ⟨c, hc, fails⟩ | refused
      · exact absurd fails (smooth c hc)
      · exact absurd first refused

theorem acceptedSucceeds (x : Exporter) (sink : Sink) (range : CodeRange) :
    (∃ stats, (toSink x sink range).result = .ok stats) ↔
      (∀ call taken offered, (toSink x sink range).outlet.Asked call taken offered →
        sink.Accepts call taken offered) ∧ sink.flush 1 = none := by
  rw [succeedsIff, Outlet.smoothIff (toSinkFollows x sink range).1]

/- A sink that refuses nothing. -/
theorem obligingSucceeds (h : sink.Obliging) (x : Exporter) (range : CodeRange) :
    ∃ stats, (toSink x sink range).result = .ok stats := by
  refine (acceptedSucceeds x sink range).mpr ⟨fun call taken offered asked => ?_, h.flushes 1⟩
  exact h.accepts call taken offered
    (Outlet.askedSome (toSinkFollows x sink range).1 asked)

theorem exportSucceedsIff (x : Exporter) (sink : Sink) (range : CodeRange) :
    let run := toSink x sink range
    run.outlet.Follows sink ∧ (∀ c ∈ run.outlet.calls.toList, c.offered ≤ 8192) ∧
    ((∃ stats, run.result = .ok stats) ↔
      (∀ call taken offered, run.outlet.Asked call taken offered →
        ∃ count, 0 < count ∧ sink.reply call taken offered = .accept count) ∧
      sink.flush 1 = none) ∧
    (∀ stats, run.result = .ok stats →
      run.outlet.accepted.toList = document x range ∧ run.outlet.flushes = 2) ∧
    (sink.Obliging → ∃ stats, run.result = .ok stats) := by
  intro run
  obtain ⟨follows, offered⟩ := toSinkFollows x sink range
  refine ⟨follows, offered, acceptedSucceeds x sink range, fun stats ok => ?_,
    fun obliging => obligingSucceeds obliging x range⟩
  obtain ⟨_, accepted, _, flushes, _⟩ := succeededWhole ok
  exact ⟨accepted, flushes⟩

/- A definition that is twice as long in the document, where every quote is doubled, and goes on
behind the end of the buffer. -/
def quotes : Text := List.replicate 5000 '"'

def quotesOnly : Exporter where
  resolver :=
    { name := text "quotes"
      resolve := fun c => .ok ⟨c, quotes, none⟩
      toProjString := fun crs => .ok crs.proj4 }

/- Every call is interrupted twice and takes a thousand bytes at most. -/
def thousands : Sink where
  interruptions _ := 2
  reply _ _ _ := .accept 1000
  flush _ := none

theorem quotesRow : Csv.record (Text.utf8 (text "1")) (Text.utf8 quotes) =
    Text.utf8 (text "1,") ++ (List.replicate 10002 Csv.quote ++ [Csv.lineFeed]) := by
  have bytes : Text.utf8 quotes = List.replicate 5000 Csv.quote := by
    have one : String.utf8EncodeChar '"' = [Csv.quote] := by decide
    rw [Text.utf8, quotes, List.flatMap_replicate, one, List.flatten_replicate_singleton]
  have special : Csv.needsQuotes (List.replicate 5000 Csv.quote) = true :=
    List.any_eq_true.mpr ⟨Csv.quote, List.mem_replicate.mpr ⟨by decide, rfl⟩, rfl⟩
  have doubled : (List.replicate 5000 Csv.quote).flatMap Csv.escape =
      List.replicate 10000 Csv.quote := by
    have two : Csv.escape Csv.quote = List.replicate 2 Csv.quote := by decide
    rw [List.flatMap_replicate, two, List.flatten_replicate_replicate]
  have framed : Csv.quote :: List.replicate 10000 Csv.quote ++ [Csv.quote] =
      List.replicate 10002 Csv.quote := by
    rw [← List.replicate_succ, ← List.replicate_succ']
  have plain : (Csv.fieldPieces (Text.utf8 (text "1"))).flatten = Text.utf8 (text "1") := by decide
  rw [Csv.recordBytes, bytes, Csv.fieldBytes (List.replicate 5000 Csv.quote), if_pos special,
    doubled, plain, framed]
  rfl

theorem quotesDocument : document quotesOnly ⟨1, 2, by decide, by decide⟩ =
    Text.utf8 (text "EPSG Code,PROJ Definition\n1,") ++
      (List.replicate 10002 Csv.quote ++ [Csv.lineFeed]) := by
  have codes : (⟨1, 2, by decide, by decide⟩ : CodeRange).codes = [1] := by decide
  have record : quotesOnly.record 1 = .ok ⟨1, quotes⟩ := rfl
  have fields : rowFields ⟨1, quotes⟩ = (Text.utf8 (text "1"), Text.utf8 quotes) := rfl
  have titles : Csv.record headerFields.1 headerFields.2 =
      Text.utf8 (text "EPSG Code,PROJ Definition\n") := by decide +kernel
  have front : Text.utf8 (text "EPSG Code,PROJ Definition\n") ++ Text.utf8 (text "1,") =
      Text.utf8 (text "EPSG Code,PROJ Definition\n1,") := by decide +kernel
  rw [document, rows, codes, List.filterMap_cons, record]
  dsimp only [Except.toOption]
  rw [List.filterMap_nil, List.map_singleton, fields, Csv.document, List.flatMap_cons,
    List.flatMap_singleton, titles, quotesRow, ← List.append_assoc, front]

theorem quotesPastBuffer :
    let run := toSink quotesOnly thousands ⟨1, 2, by decide, by decide⟩
    (∃ stats, run.result = .ok stats) ∧
      run.outlet.accepted.toList = Text.utf8 (text "EPSG Code,PROJ Definition\n1,") ++
        (List.replicate 10002 Csv.quote ++ [Csv.lineFeed]) ∧
      (∀ c ∈ run.outlet.calls.toList, c.offered ≤ 8192 ∧ c.taken ≤ 1000) ∧
      ∃ offered later, run.outlet.calls.toList = ⟨offered, .interrupted⟩ ::
        ⟨offered, .interrupted⟩ :: ⟨offered, .took (min 1000 offered)⟩ :: later := by
  have facts := exportSucceedsIff quotesOnly thousands ⟨1, 2, by decide, by decide⟩
  -- nothing of the run is worked out here
  generalize toSink quotesOnly thousands ⟨1, 2, by decide, by decide⟩ = run at facts ⊢
  obtain ⟨⟨answered, taken⟩, offered, succeeds, writes, _⟩ := facts
  obtain ⟨stats, ok⟩ := succeeds.mpr ⟨fun _ _ _ _ => ⟨1000, by decide, rfl⟩, rfl⟩
  have accepted := (writes stats ok).1
  rw [quotesDocument] at accepted
  refine ⟨⟨stats, ok⟩, accepted, fun c hc => ⟨offered c hc, ?_⟩, ?_⟩
  · obtain ⟨earlier, later, split⟩ := List.append_of_mem hc
    by_cases waiting : c.answer = .interrupted
    · have idle : c.taken = 0 := by simp [WriteCall.taken, WriteCall.taken?, waiting]
      omega
    · obtain ⟨_, same, _⟩ := answeredAt answered split waiting
      have took : c.answer = .took (min 1000 c.offered) := same
      simp [WriteCall.taken, WriteCall.taken?, took, Nat.min_le_left]
  · generalize run.outlet.calls.toList = calls at answered taken ⊢
    cases answered with
    | none =>
      have length := congrArg List.length accepted
      rw [Array.length_toList, taken, List.length_append, List.length_append] at length
      simp only [totalTaken, List.length_singleton] at length
      omega
    | @call _ _ waits later c interrupted some answer next =>
      have twice : 2 = waits := interrupted
      subst twice
      have took : c.answer = .took (min 1000 c.offered) := answer
      exact ⟨c.offered, later, took ▸ rfl⟩

end Export
end CrsExport
