import CrsExport.Log.Event
import CrsExport.Log.Filter
/-! What a log shows. At the level of traces nothing is left out, and the codes that have been
skipped can be told from the messages alone, as can malformed lines. -/

namespace CrsExport.Log

/-- The records that a log shows of some events if nothing but its level is set. -/
def shown (level : Level) (times : Times) (events : List Event) : List Record :=
  (events.map (·.record times)).filter (({} : Filter).withLevel level).allows

def skipMark : Text := text "Skipping EPSG:"

def Event.refusal? : Event → Option ResolveError
  | skipping e => some e
  | _ => none

def malformedMark : Text := text "Skipping init file line "

def Event.malformed? : Event → Option (Nat × Text)
  | malformedLine number content => some (number, content)
  | _ => none

theorem allowsUpTo (level : Level) (r : Record) :
    (({} : Filter).withLevel level).allows r = decide (r.level.rank ≤ level.rank) := by
  have own : ∀ target, (((({} : Filter).withLevel level).directiveFor? target).bind
      (·.level)) = some level := by
    intro target
    cases level <;> cases target <;> decide +kernel
  have plain : (({} : Filter).withLevel level).pattern = none := by
    cases level <;> rfl
  simp [Filter.allows, own, plain]

theorem shownUpTo {level : Level} (times : Times) {events : List Event}
    (h : ∀ e ∈ events, e.level.rank ≤ level.rank) :
    shown level times events = events.map (·.record times) := by
  refine List.filter_eq_self.mpr fun r hr => ?_
  obtain ⟨e, member, rfl⟩ := List.mem_map.mp hr
  rw [allowsUpTo]
  exact decide_eq_true (h e member)

theorem shownMessages {level : Level} (times : Times) {events : List Event}
    (h : ∀ e ∈ events, e.level.rank ≤ level.rank) :
    (shown level times events).map (·.message) = events.map (·.message times) := by
  rw [shownUpTo times h, List.map_map]
  rfl

/- Events of one kind can be told from a log if all their messages begin alike and no other
message does. -/
theorem markedMessages {α : Type} {mark : Text} {observe : Event → Option α} {back : α → Event}
    {times : Times} (marked : ∀ e, mark.isPrefixOf (e.message times) = (observe e).isSome)
    (own : ∀ e a, observe e = some a → e = back a) (events : List Event) :
    (events.map (·.message times)).filter mark.isPrefixOf =
      (events.filterMap observe).map fun a => (back a).message times := by
  induction events with
  | nil => rfl
  | cons e rest ih =>
    rw [List.map_cons, List.filter_cons, marked, ih]
    cases seen : observe e with
    | none => simp [seen]
    | some a => simp [seen, ← own e a seen]

theorem skipMessages (times : Times) (events : List Event) :
    (events.map (·.message times)).filter skipMark.isPrefixOf =
      (events.filterMap Event.refusal?).map fun e => (Event.skipping e).message times := by
  refine markedMessages (fun e => by cases e <;> rfl) (fun e refusal seen => ?_) events
  cases e <;> cases seen
  rfl

theorem malformedMessages (times : Times) (events : List Event) :
    (events.map (·.message times)).filter malformedMark.isPrefixOf =
      (events.filterMap Event.malformed?).map fun l =>
        (Event.malformedLine l.1 l.2).message times := by
  refine markedMessages (fun e => by cases e <;> rfl) (fun e line seen => ?_) events
  cases e <;> cases seen
  rfl

def skipLines (times : Times) (events : List Event) : List Text :=
  ((shown .trace times events).map (·.message)).filter skipMark.isPrefixOf

theorem skipLinesOfRefusals (times : Times) (events : List Event) :
    skipLines times events =
      (events.filterMap Event.refusal?).map fun e => (Event.skipping e).message times := by
  have highest : ∀ l : Level, l.rank ≤ Level.trace.rank := by
    intro l
    cases l <;> decide
  rw [skipLines, shownMessages times fun e _ => highest e.level, skipMessages]

end CrsExport.Log
