import CrsExport.Sink
/-! Bytes on their way to a sink, call by call. A transfer goes on through interrupted and
partial calls; it ends when all bytes are taken, or with the first call that fails. -/

namespace CrsExport

namespace WriteCall

def taken (c : WriteCall) : Nat := c.taken?.getD 0

/- An interrupted call is made again; it is no failure. -/
def Fails (c : WriteCall) : Prop := c.answer = .took 0 ∨ ∃ fault, c.answer = .refused fault

end WriteCall

def totalTaken : List WriteCall → Nat
  | [] => 0
  | c :: calls => c.taken + totalTaken calls

/-- The calls that write bytes to a sink, and the fault that ends them before all are taken. -/
inductive Transfer : List UInt8 → List WriteCall → Option FileFault → Prop where
  | done : Transfer [] [] none
  | interrupted {bytes calls fault} (left : bytes ≠ []) (next : Transfer bytes calls fault) :
      Transfer bytes (⟨bytes.length, .interrupted⟩ :: calls) fault
  | took {bytes calls fault} (n : Nat) (positive : 0 < n) (fits : n ≤ bytes.length)
      (next : Transfer (bytes.drop n) calls fault) :
      Transfer bytes (⟨bytes.length, .took n⟩ :: calls) fault
  | nothing {bytes} (left : bytes ≠ []) :
      Transfer bytes [⟨bytes.length, .took 0⟩] (some .writeZero)
  | refused {bytes} (left : bytes ≠ []) (fault : FileFault) :
      Transfer bytes [⟨bytes.length, .refused fault⟩] (some fault)

theorem totalTakenCons (c : WriteCall) (calls : List WriteCall) :
    totalTaken (c :: calls) = c.taken + totalTaken calls := rfl

theorem totalTakenAppend (first second : List WriteCall) :
    totalTaken (first ++ second) = totalTaken first + totalTaken second := by
  induction first with
  | nil => exact (Nat.zero_add _).symm
  | cons c rest ih => rw [List.cons_append, totalTakenCons, totalTakenCons, ih, Nat.add_assoc]

theorem noneTaken {calls : List WriteCall} (h : ∀ c ∈ calls, c.taken = 0) :
    totalTaken calls = 0 := by
  induction calls with
  | nil => rfl
  | cons c rest ih =>
    rw [totalTakenCons, h c List.mem_cons_self, ih fun c hc => h c (List.mem_cons_of_mem _ hc)]

@[simp] theorem takenInterrupted (n : Nat) : (WriteCall.mk n .interrupted).taken = 0 := rfl

@[simp] theorem takenTook (n count : Nat) : (WriteCall.mk n (.took count)).taken = count := rfl

theorem takenWaiting (waits offered : Nat) (calls : List WriteCall) :
    totalTaken (List.replicate waits ⟨offered, .interrupted⟩ ++ calls) = totalTaken calls := by
  have idle : ∀ c ∈ List.replicate waits (⟨offered, .interrupted⟩ : WriteCall), c.taken = 0 := by
    intro c hc
    rw [List.eq_of_mem_replicate hc]
    rfl
  rw [totalTakenAppend, noneTaken idle, Nat.zero_add]

theorem interruptedOn (n : Nat) : ¬ (WriteCall.mk n .interrupted).Fails := by
  simp [WriteCall.Fails]

theorem tookOn (n : Nat) {count : Nat} (positive : 0 < count) :
    ¬ (WriteCall.mk n (.took count)).Fails := by
  have nonzero := Nat.ne_of_gt positive
  simp [WriteCall.Fails, nonzero]

theorem transferComplete {bytes calls} (h : Transfer bytes calls none) :
    totalTaken calls = bytes.length ∧ ∀ c ∈ calls, ¬ c.Fails := by
  generalize eq : (none : Option FileFault) = fault at h
  induction h with
  | done => exact ⟨rfl, by simp⟩
  | interrupted left next ih =>
    obtain ⟨total, smooth⟩ := ih eq
    exact ⟨by rw [totalTakenCons, total, takenInterrupted, Nat.zero_add],
      List.forall_mem_cons.mpr ⟨interruptedOn _, smooth⟩⟩
  | took n positive fits next ih =>
    obtain ⟨total, smooth⟩ := ih eq
    rw [List.length_drop] at total
    exact ⟨by rw [totalTakenCons, total, takenTook, Nat.add_sub_cancel' fits],
      List.forall_mem_cons.mpr ⟨tookOn _ positive, smooth⟩⟩
  | nothing left => contradiction
  | refused left fault => contradiction

/- Only the last call of a broken transfer fails, and it takes nothing. -/
theorem transferBroken {bytes calls fault} (h : Transfer bytes calls (some fault)) :
    totalTaken calls < bytes.length ∧ ∃ earlier last, calls = earlier ++ [last] ∧
      last.Fails ∧ ∀ c ∈ earlier, ¬ c.Fails := by
  generalize eq : some fault = result at h
  induction h with
  | done => contradiction
  | interrupted left next ih =>
    obtain ⟨total, earlier, last, split, fails, smooth⟩ := ih eq
    refine ⟨?_, _ :: earlier, last, by rw [split, List.cons_append], fails,
      List.forall_mem_cons.mpr ⟨interruptedOn _, smooth⟩⟩
    rwa [totalTakenCons, takenInterrupted, Nat.zero_add]
  | took n positive fits next ih =>
    obtain ⟨total, earlier, last, split, fails, smooth⟩ := ih eq
    refine ⟨?_, _ :: earlier, last, by rw [split, List.cons_append], fails,
      List.forall_mem_cons.mpr ⟨tookOn _ positive, smooth⟩⟩
    rw [List.length_drop] at total
    rw [totalTakenCons, takenTook]
    omega
  | nothing left =>
    exact ⟨List.length_pos_iff.mpr left, [], _, rfl, .inl rfl, by simp⟩
  | refused left fault =>
    exact ⟨List.length_pos_iff.mpr left, [], _, rfl, .inr ⟨fault, rfl⟩, by simp⟩

theorem transferBound {bytes calls fault} (h : Transfer bytes calls fault) :
    totalTaken calls ≤ bytes.length := by
  cases fault with
  | none => exact Nat.le_of_eq (transferComplete h).1
  | some fault => exact Nat.le_of_lt (transferBroken h).1

theorem transferOffers {bytes calls fault} (h : Transfer bytes calls fault) :
    ∀ c ∈ calls, c.offered ≤ bytes.length := by
  induction h with
  | done => simp
  | interrupted left next ih => exact List.forall_mem_cons.mpr ⟨Nat.le_refl _, ih⟩
  | took n positive fits next ih =>
    refine List.forall_mem_cons.mpr ⟨Nat.le_refl _, fun c hc => ?_⟩
    exact Nat.le_trans (ih c hc) (List.length_drop ▸ Nat.sub_le _ _)
  | nothing left => simp
  | refused left fault => simp

theorem transferWhole {bytes calls fault} (h : Transfer bytes calls fault)
    (whole : ∀ c ∈ calls, c.taken = 0 ∨ c.taken = c.offered) :
    totalTaken calls = 0 ∨ totalTaken calls = bytes.length := by
  induction h with
  | done => exact .inl rfl
  | interrupted left next ih =>
    rw [totalTakenCons, takenInterrupted, Nat.zero_add]
    exact ih fun c hc => whole c (List.mem_cons_of_mem _ hc)
  | @took bytes calls fault n positive fits next ih =>
    -- a first call that takes all leaves nothing for the others
    have all : n = 0 ∨ n = bytes.length := whole _ List.mem_cons_self
    have length : n = bytes.length := by omega
    have bound := transferBound next
    rw [List.length_drop] at bound
    rw [totalTakenCons, takenTook]
    omega
  | nothing left => exact .inl rfl
  | refused left fault => exact .inl rfl

theorem transferInterrupted {bytes calls fault} (left : bytes ≠ []) (times : Nat)
    (h : Transfer bytes calls fault) :
    Transfer bytes (List.replicate times ⟨bytes.length, .interrupted⟩ ++ calls) fault := by
  induction times with
  | zero => exact h
  | succ times ih => exact .interrupted left ih

namespace Outlet

structure Gains (o o' : Outlet) (bytes : List UInt8) (calls : List WriteCall) : Prop where
  accepted : o'.accepted.toList = o.accepted.toList ++ bytes
  calls : o'.calls.toList = o.calls.toList ++ calls
  flushes : o'.flushes = o.flushes

theorem gainsNothing (o : Outlet) : Gains o o [] [] := ⟨by simp, by simp, rfl⟩

theorem gainsThen {o o' o'' : Outlet} {first second : List UInt8} {calls more : List WriteCall}
    (one : Gains o o' first calls) (two : Gains o' o'' second more) :
    Gains o o'' (first ++ second) (calls ++ more) :=
  ⟨by rw [two.accepted, one.accepted, List.append_assoc],
    by rw [two.calls, one.calls, List.append_assoc], two.flushes.trans one.flushes⟩

theorem interruptedGains (o : Outlet) (times offered : Nat) :
    Gains o (o.interrupted times offered) [] (List.replicate times ⟨offered, .interrupted⟩) :=
  ⟨by simp [interrupted], by simp [interrupted], rfl⟩

theorem refusedGains (o : Outlet) (offered : Nat) (fault : FileFault) :
    Gains o (o.refused offered fault) [] [⟨offered, .refused fault⟩] :=
  ⟨by simp [refused], by simp [refused], rfl⟩

theorem tookGains (o : Outlet) (bytes : List UInt8) (count : Nat) :
    Gains o (o.took bytes count) (bytes.take count) [⟨bytes.length, .took count⟩] :=
  ⟨by simp [took], by simp [took], rfl⟩

/- The interrupted calls before an answer add nothing to what is taken. -/
theorem waitThen {bytes calls fault} {o o' : Outlet} (left : bytes ≠ []) (times : Nat)
    (answered : Transfer bytes calls fault)
    (gains : Gains (o.interrupted times bytes.length) o' (bytes.take (totalTaken calls)) calls) :
    ∃ calls, Transfer bytes calls fault ∧ Gains o o' (bytes.take (totalTaken calls)) calls := by
  refine ⟨_, transferInterrupted left times answered, ?_⟩
  rw [takenWaiting]
  exact gainsThen (interruptedGains o times bytes.length) gains

theorem writeAllNil (sink : Sink) (o : Outlet) : o.writeAll sink [] = (none, o) := by
  unfold writeAll
  rw [dif_pos rfl]

def waited (sink : Sink) (o : Outlet) (offered : Nat) : Outlet :=
  o.interrupted (sink.interruptions (o.calls.size + 1)) offered

/- The rounds of the loop: interrupted calls, then an answer that ends it or goes on with what is
left. -/
section
variable {sink : Sink} {bytes : List UInt8} {o : Outlet}

theorem writeAllRefused {fault : FileFault} (left : bytes ≠ [])
    (reply : sink.reply ((o.waited sink bytes.length).calls.size + 1)
      (o.waited sink bytes.length).accepted.size bytes.length = .refuse fault) :
    o.writeAll sink bytes =
      (some fault, (o.waited sink bytes.length).refused bytes.length fault) := by
  unfold waited at reply ⊢
  unfold writeAll
  rw [dif_neg left]
  simp only [reply]

theorem writeAllNothing {most : Nat} (left : bytes ≠ [])
    (reply : sink.reply ((o.waited sink bytes.length).calls.size + 1)
      (o.waited sink bytes.length).accepted.size bytes.length = .accept most)
    (zero : min most bytes.length = 0) :
    o.writeAll sink bytes = (some .writeZero, (o.waited sink bytes.length).took bytes 0) := by
  unfold waited at reply ⊢
  unfold writeAll
  rw [dif_neg left]
  simp only [reply]
  rw [if_pos zero]

theorem writeAllTook {most : Nat} (left : bytes ≠ [])
    (reply : sink.reply ((o.waited sink bytes.length).calls.size + 1)
      (o.waited sink bytes.length).accepted.size bytes.length = .accept most)
    (nonzero : min most bytes.length ≠ 0) :
    o.writeAll sink bytes =
      ((o.waited sink bytes.length).took bytes (min most bytes.length)).writeAll sink
        (bytes.drop (min most bytes.length)) := by
  unfold waited at reply ⊢
  rw [writeAll, dif_neg left]
  simp only [reply]
  rw [if_neg nonzero]

end

theorem writeAllTransfer (sink : Sink) (bytes : List UInt8) (o : Outlet) :
    ∃ calls, Transfer bytes calls (o.writeAll sink bytes).1 ∧
      Gains o (o.writeAll sink bytes).2 (bytes.take (totalTaken calls)) calls := by
  induction bytes, o using writeAll.induct sink with
  | case1 o =>
    rw [writeAllNil]
    exact ⟨[], .done, gainsNothing o⟩
  | case2 bytes o left waited fault reply =>
    rw [writeAllRefused left reply]
    exact waitThen left _ (.refused left fault) (refusedGains _ bytes.length fault)
  | case3 bytes o left waited most reply count zero =>
    rw [writeAllNothing left reply zero]
    exact waitThen left _ (.nothing left) (tookGains _ bytes 0)
  | case4 bytes o left waited most reply count nonzero ih =>
    obtain ⟨calls, rest, gains⟩ := ih
    rw [writeAllTook left reply nonzero]
    have positive : 0 < count := Nat.pos_of_ne_zero nonzero
    have fits : count ≤ bytes.length := Nat.min_le_right most bytes.length
    have joined := gainsThen (tookGains waited bytes count) gains
    refine waitThen left (sink.interruptions (o.calls.size + 1)) (.took count positive fits rest) ?_
    rw [totalTakenCons, takenTook, List.take_add]
    exact joined

end Outlet

namespace Sink

/-- A sink that refuses nothing: every answered call takes some of what it offers, and no
flush call fails. -/
structure Obliging (sink : Sink) : Prop where
  accepts : ∀ call accepted offered, 0 < offered →
    ∃ count, 0 < count ∧ sink.reply call accepted offered = .accept count
  flushes : ∀ call, sink.flush call = none

theorem perfectObliging : Sink.perfect.Obliging :=
  ⟨fun _ _ offered some => ⟨offered, some, rfl⟩, fun _ => rfl⟩

end Sink
end CrsExport
