import Mathlib.Data.List.Induction
import CrsExport.Proofs.InitFile.Entry
/-! The table loaded from an init file. Every code has the definition of its last entry, and the
lines that are no entries leave no trace. -/

namespace CrsExport.InitFile

def textLines (contents : Text) : List Text := Text.splitWhen (· == '\n') contents

def definitionIn (code : Code) (line : Text) : Option Text :=
  match readLine line with
  | .entry c definition => if c = code then some definition else none
  | _ => none

def LastEntry (contents : Text) (code : Code) (definition : Text) : Prop :=
  ∃ before line after, textLines contents = before ++ line :: after ∧
    IsEntry line code definition ∧ ∀ l ∈ after, ∀ d, ¬ IsEntry l code d

variable {line contents : Text} {code : Code} {definition d : Text}

theorem textLinesJoined (a b : Text) : textLines (a ++ '\n' :: b) = textLines a ++ textLines b :=
  Text.splitAt '\n' a b

theorem textLinesUnbroken (h : '\n' ∉ line) : textLines line = [line] :=
  Text.splitNowhere h

theorem definitionInIff : definitionIn code line = some definition ↔
    IsEntry line code definition := by
  rw [← readLineIff]
  unfold definitionIn
  cases readLine line with
  | entry c found =>
    by_cases same : c = code
    · simp [same]
    · simp [same]
  | blank | comment | malformed content => simp

theorem definitionInNone : definitionIn code line = none ↔ ∀ d, ¬ IsEntry line code d := by
  rw [Option.eq_none_iff_forall_ne_some]
  exact forall_congr' fun d => not_congr definitionInIff

/- Each line is looked at once, and what it says counts before all that was said earlier. -/
theorem findLast (contents : Text) (code : Code) :
    (parse contents).find? code = (textLines contents).reverse.findSome? (definitionIn code) := by
  unfold parse readLines
  rw [← textLines]
  induction textLines contents using List.reverseRecOn with
  | nil => simp [entries, find?]
  | append_singleton ls line ih =>
    rw [List.reverse_append, List.reverse_singleton, List.singleton_append, List.findSome?_cons,
      ← ih]
    simp only [entries, definitionIn, List.map_append, List.map_singleton,
      List.filterMap_append, List.foldl_append]
    cases readLine line with
    | entry c found =>
      by_cases same : c = code
      · simp [findInserted, same]
      · simp [findInserted, same]
    | blank | comment | malformed content => rfl

theorem findIff : (parse contents).find? code = some definition ↔
    LastEntry contents code definition := by
  rw [findLast, List.findSome?_eq_some_iff, LastEntry]
  simp only [definitionInIff, definitionInNone]
  constructor
  · rintro ⟨after, line, before, split, entry, silent⟩
    refine ⟨before.reverse, line, after.reverse, ?_, entry,
      fun l hl => silent l (List.mem_reverse.mp hl)⟩
    rw [← List.reverse_reverse (textLines contents), split]
    simp
  · rintro ⟨before, line, after, split, entry, silent⟩
    refine ⟨after.reverse, line, before.reverse, ?_, entry,
      fun l hl => silent l (List.mem_reverse.mp hl)⟩
    rw [split]
    simp

theorem findNone : (parse contents).find? code = none ↔
    ∀ line ∈ textLines contents, ∀ d, ¬ IsEntry line code d := by
  rw [findLast, List.findSome?_eq_none_iff]
  simp only [List.mem_reverse, definitionInNone]

/- Where the entries for a code agree it does not matter which of them is the last. -/
theorem findAgreed (agreed : ∀ l ∈ textLines contents, ∀ l' ∈ textLines contents, ∀ d d',
      IsEntry l code d → IsEntry l' code d' → d = d') :
    (parse contents).find? code = some definition ↔
      ∃ line ∈ textLines contents, IsEntry line code definition := by
  constructor
  · intro found
    obtain ⟨before, line, after, split, entry, _⟩ := findIff.mp found
    exact ⟨line, by simp [split], entry⟩
  · rintro ⟨line, member, entry⟩
    cases found : (parse contents).find? code with
    | none => exact absurd entry (findNone.mp found line member definition)
    | some other =>
      obtain ⟨before, last, after, split, entry', _⟩ := findIff.mp found
      rw [agreed last (by simp [split]) line member other definition entry' entry]

theorem findExactly {found : Option Text} (listed : ∀ d,
      (∃ l ∈ textLines contents, IsEntry l code d) ↔ found = some d) :
    (parse contents).find? code = found := by
  refine Option.ext fun d => ?_
  rw [findAgreed, listed]
  intro l hl l' hl' d d' entry entry'
  have first := (listed d).mp ⟨l, hl, entry⟩
  have second := (listed d').mp ⟨l', hl', entry'⟩
  exact Option.some.inj (first.symm.trans second)

def Same (table other : InitFile) : Prop := table.definitions.Equiv other.definitions

def override (table other : InitFile) : InitFile := ⟨table.definitions ∪ other.definitions⟩

section
variable {table other : InitFile}

theorem sameIff : Same table other ↔ ∀ code, table.find? code = other.find? code :=
  ⟨fun same _ => same.getElem?_eq, fun found => .of_forall_getElem?_eq found⟩

theorem sameSize (h : Same table other) : table.size = other.size := by
  rw [size, size, h.size_eq]

theorem sameResolver (h : Same table other) : table.resolver = other.resolver := by
  have found : table.find? = other.find? := funext (sameIff.mp h)
  unfold resolver
  rw [found]

theorem overrideFind (table other : InitFile) (code : Code) :
    (table.override other).find? code = (other.find? code).or (table.find? code) :=
  Std.HashMap.getElem?_union

end

end CrsExport.InitFile
