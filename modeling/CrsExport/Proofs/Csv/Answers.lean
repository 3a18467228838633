import CrsExport.Proofs.Csv.Transfer
/-! What a log of write calls says of its sink. Each call has come out as the sink has it for a
call of that number, after so many bytes taken and with so many on offer, and what has been taken
is what the calls took. -/

namespace CrsExport

namespace Sink

def answer (sink : Sink) (call taken offered : Nat) : Answer :=
  match sink.reply call taken offered with
  | .accept count => .took (min count offered)
  | .refuse fault => .refused fault

def Accepts (sink : Sink) (call taken offered : Nat) : Prop :=
  ∃ count, 0 < count ∧ sink.reply call taken offered = .accept count

end Sink

/-- What calls come to when so many have been made before them and so many bytes taken. A call is
made again as often as the sink interrupts it, and then answered. -/
inductive Answered (sink : Sink) : (made taken : Nat) → List WriteCall → Prop where
  | none {made taken} : Answered sink made taken []
  | call {made taken waits calls} {c : WriteCall}
      (interrupted : sink.interruptions (made + 1) = waits) (some : 0 < c.offered)
      (answer : c.answer = sink.answer (made + waits + 1) taken c.offered)
      (next : Answered sink (made + waits + 1) (taken + c.taken) calls) :
      Answered sink made taken (List.replicate waits ⟨c.offered, .interrupted⟩ ++ c :: calls)

variable {sink : Sink} {made taken waits call offered : Nat} {c : WriteCall}
  {first second calls earlier later : List WriteCall}

theorem answeredAppend (h : Answered sink made taken first)
    (next : Answered sink (made + first.length) (taken + totalTaken first) second) :
    Answered sink made taken (first ++ second) := by
  induction h with
  | none => exact next
  | @call made taken waits calls c interrupted some answer _ ih =>
    rw [takenWaiting, totalTakenCons, List.length_append, List.length_replicate, List.length_cons,
      Nat.add_comm calls.length, ← Nat.add_assoc, ← Nat.add_assoc, ← Nat.add_assoc] at next
    rw [List.append_assoc, List.cons_append]
    exact .call interrupted some answer (ih next)

/- A call that comes through does not stand among those that were interrupted before another. -/
theorem answeredAt (h : Answered sink made taken calls) (split : calls = earlier ++ c :: later)
    (through : c.answer ≠ .interrupted) : 0 < c.offered ∧
      c.answer = sink.answer (made + earlier.length + 1) (taken + totalTaken earlier) c.offered ∧
      Answered sink (made + earlier.length + 1) (taken + totalTaken earlier + c.taken) later := by
  induction h generalizing earlier with
  | none => simp at split
  | @call made taken waits calls d interrupted some answer next ih =>
    rcases List.append_eq_append_iff.mp split with ⟨front, rfl, behind⟩ | ⟨front, waiting, behind⟩
    · rw [takenWaiting, List.length_append, List.length_replicate]
      cases front with
      | nil =>
        obtain ⟨rfl, rfl⟩ := List.cons.inj behind
        exact ⟨some, answer, next⟩
      | cons e front =>
        obtain ⟨rfl, rest⟩ := List.cons.inj behind
        have place : made + waits + 1 + front.length + 1 =
            made + (waits + (d :: front).length) + 1 := by
          rw [List.length_cons]
          omega
        have before : taken + d.taken + totalTaken front = taken + totalTaken (d :: front) := by
          rw [totalTakenCons, Nat.add_assoc]
        exact place ▸ before ▸ ih rest
    · cases front with
      | nil =>
        obtain ⟨rfl, rfl⟩ := List.cons.inj behind
        rw [List.append_nil] at waiting
        have idle := takenWaiting waits c.offered []
        rw [List.append_nil] at idle
        rw [← waiting, List.length_replicate, idle]
        exact ⟨some, answer, next⟩
      | cons e front =>
        obtain ⟨rfl, _⟩ := List.cons.inj behind
        have waited : c ∈ List.replicate waits (⟨d.offered, .interrupted⟩ : WriteCall) := by
          rw [waiting]
          simp
        rw [List.eq_of_mem_replicate waited] at through
        exact absurd rfl through

theorem acceptsIff (some : 0 < c.offered) (answer : c.answer = sink.answer call taken c.offered) :
    sink.Accepts call taken c.offered ↔ ¬ c.Fails := by
  unfold Sink.Accepts WriteCall.Fails
  rw [answer, Sink.answer]
  cases sink.reply call taken c.offered with
  | refuse fault => simp
  | accept count =>
    have taken : 0 < count ↔ min count c.offered ≠ 0 := by omega
    simp [taken]

theorem failsThrough (h : c.Fails) : c.answer ≠ .interrupted := by
  rcases h with nothing | ⟨fault, refused⟩
  · simp [nothing]
  · simp [refused]

theorem failsTakesNothing (h : c.Fails) : c.taken = 0 := by
  rcases h with nothing | ⟨fault, refused⟩
  · simp [WriteCall.taken, WriteCall.taken?, nothing]
  · simp [WriteCall.taken, WriteCall.taken?, refused]

namespace Outlet

def Asked (o : Outlet) (call taken offered : Nat) : Prop :=
  ∃ earlier answer later, o.calls.toList = earlier ++ ⟨offered, answer⟩ :: later ∧
    answer ≠ .interrupted ∧ earlier.length + 1 = call ∧ totalTaken earlier = taken

structure Follows (o : Outlet) (sink : Sink) : Prop where
  answered : Answered sink 0 0 o.calls.toList
  taken : o.accepted.size = totalTaken o.calls.toList

variable {o o' : Outlet} {bytes : List UInt8}

theorem freshFollows (sink : Sink) : Follows {} sink := ⟨.none, rfl⟩

theorem smoothIff (h : o.Follows sink) : (∀ c ∈ o.calls.toList, ¬ c.Fails) ↔
    ∀ call taken offered, o.Asked call taken offered → sink.Accepts call taken offered := by
  constructor
  · rintro smooth call taken offered ⟨earlier, answer, later, split, through, rfl, rfl⟩
    obtain ⟨some, same, _⟩ := answeredAt h.answered split through
    rw [Nat.zero_add, Nat.zero_add] at same
    refine (acceptsIff some same).mpr (smooth _ ?_)
    rw [split]
    simp
  · intro accepts c hc fails
    obtain ⟨earlier, later, split⟩ := List.append_of_mem hc
    have through := failsThrough fails
    obtain ⟨some, same, _⟩ := answeredAt h.answered split through
    rw [Nat.zero_add, Nat.zero_add] at same
    exact (acceptsIff some same).mp
      (accepts _ _ _ ⟨earlier, c.answer, later, split, through, rfl, rfl⟩) fails

theorem askedSome (h : o.Follows sink) (asked : o.Asked call taken offered) : 0 < offered := by
  obtain ⟨earlier, answer, later, split, through, _, _⟩ := asked
  exact (answeredAt h.answered split through).1

/- The interrupted calls before an answer and the answer itself, one round of the loop. -/
theorem roundFollows (h : o.Follows sink) (some : 0 < c.offered)
    (answer : c.answer = sink.answer ((o.waited sink c.offered).calls.size + 1)
      (o.waited sink c.offered).accepted.size c.offered)
    (gains : Gains (o.waited sink c.offered) o' bytes [c]) (length : bytes.length = c.taken) :
    o'.Follows sink := by
  unfold waited at answer gains
  have number : (o.interrupted (sink.interruptions (o.calls.size + 1)) c.offered).calls.size =
      o.calls.size + sink.interruptions (o.calls.size + 1) := by simp [interrupted]
  rw [number] at answer
  obtain ⟨accepted, calls, _⟩ := gainsThen (interruptedGains o _ c.offered) gains
  refine ⟨?_, ?_⟩
  · rw [calls]
    refine answeredAppend h.answered ?_
    rw [Nat.zero_add, Nat.zero_add, Array.length_toList, ← h.taken]
    exact .call rfl some answer .none
  · rw [calls, totalTakenAppend, takenWaiting, ← Array.length_toList, accepted]
    simp [totalTaken, h.taken, length]

theorem writeAllFollows (bytes : List UInt8) (h : o.Follows sink) :
    (o.writeAll sink bytes).2.Follows sink := by
  induction bytes, o using writeAll.induct sink with
  | case1 o =>
    rw [writeAllNil]
    exact h
  | case2 bytes o left waited fault reply =>
    rw [writeAllRefused left reply]
    have answer : Answer.refused fault = sink.answer (waited.calls.size + 1) waited.accepted.size
        bytes.length := by
      rw [Sink.answer, reply]
    exact roundFollows (c := ⟨bytes.length, .refused fault⟩) h (List.length_pos_iff.mpr left)
      answer (refusedGains waited bytes.length fault) rfl
  | case3 bytes o left waited most reply count zero =>
    rw [writeAllNothing left reply zero]
    have answer : Answer.took 0 = sink.answer (waited.calls.size + 1) waited.accepted.size
        bytes.length := by
      rw [Sink.answer, reply, ← zero]
    exact roundFollows (c := ⟨bytes.length, .took 0⟩) h (List.length_pos_iff.mpr left)
      answer (tookGains waited bytes 0) rfl
  | case4 bytes o left waited most reply count nonzero ih =>
    rw [writeAllTook left reply nonzero]
    have answer : Answer.took count = sink.answer (waited.calls.size + 1) waited.accepted.size
        bytes.length := by
      rw [Sink.answer, reply]
    have fits : count ≤ bytes.length := Nat.min_le_right most bytes.length
    exact ih (roundFollows (c := ⟨bytes.length, .took count⟩) h (List.length_pos_iff.mpr left)
      answer (tookGains waited bytes count) (List.length_take_of_le fits))

end Outlet
end CrsExport
