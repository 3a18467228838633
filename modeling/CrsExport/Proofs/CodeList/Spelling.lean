import CrsExport.Proofs.CodeList.Grammar
import CrsExport.Proofs.Text.Trim
/-! Code lists as people write them. However the spans are spelled, and whatever blanks and stray
commas there are, the spans are read back as they were, in their order. -/

namespace CrsExport.CodeList

inductive Spells : Text → Option CodeSpan → Prop where
  | nothing {p} (blank : Text.IsPadding p) : Spells p none
  | code {front numeral back} {c : Code} (before : Text.IsPadding front)
      (behind : Text.IsPadding back) (isNumeral : Text.IsNumeral numeral c.toNat) :
      Spells (front ++ numeral ++ back) (some ⟨c, c⟩)
  | range {front lower gap gap' upper back} {s : CodeSpan}
      (padding : ∀ p ∈ [front, gap, gap', back], Text.IsPadding p)
      (isLower : Text.IsNumeral lower s.first.toNat) (isUpper : Text.IsNumeral upper s.last.toNat)
      (ordered : s.first ≤ s.last) :
      Spells (front ++ (lower ++ (gap ++ '-' :: gap') ++ upper) ++ back) (some s)

inductive Spelled : Text → List CodeSpan → Prop where
  | last {piece said} (spells : Spells piece said) : Spelled piece said.toList
  | comma {piece said rest spans} (spells : Spells piece said) (next : Spelled rest spans) :
      Spelled (piece ++ ',' :: rest) (said.toList ++ spans)

def spanText (s : CodeSpan) : Text :=
  if s.first = s.last then s.first.toText else s.first.toText ++ '-' :: s.last.toText

def listText (spans : List CodeSpan) : Text := [','].intercalate (spans.map spanText)

variable {piece list : Text} {said : Option CodeSpan} {s : CodeSpan} {spans : List CodeSpan}

theorem spellsUncut (h : Spells piece said) : ',' ∉ piece := by
  have padding : ∀ {p : Text}, Text.IsPadding p → ',' ∉ p :=
    fun blank => Text.paddingFree blank ',' (by decide)
  have digits : ∀ {t : Text} {n : Nat}, Text.IsNumeral t n → ',' ∉ t :=
    fun numeral => Text.numeralFree numeral (by decide)
  cases h with
  | nothing blank => exact padding blank
  | code before behind isNumeral => simp [padding before, padding behind, digits isNumeral]
  | range blank isLower isUpper _ =>
    simp only [List.forall_mem_cons] at blank
    obtain ⟨front, gap, gap', back, _⟩ := blank
    simp [padding front, padding gap, padding gap', padding back, digits isLower, digits isUpper]

theorem spellsNothing (h : Spells piece none) : Text.trim piece = [] := by
  cases h with
  | nothing blank => exact Text.trimPadding blank

theorem spellsSpan (h : Spells piece (some s)) :
    Text.trim piece ≠ [] ∧ Denotes (Text.trim piece) s := by
  cases h with
  | code before behind isNumeral =>
    rw [Text.trimPadded before behind, Text.trimTrimmed (Text.numeralTrimmed isNumeral)]
    exact ⟨Text.numeralNonempty isNumeral, .code isNumeral⟩
  | @range front lower gap gap' upper back _ padding isLower isUpper ordered =>
    simp only [List.forall_mem_cons] at padding
    obtain ⟨before, isGap, isGap', behind, _⟩ := padding
    have low := Text.numeralTrimmed isLower
    have up := Text.numeralTrimmed isUpper
    have edges := Text.trimmedBetween low (Text.numeralNonempty isLower) up
      (Text.numeralNonempty isUpper) (gap ++ '-' :: gap')
    rw [Text.trimPadded before behind, Text.trimTrimmed edges]
    refine ⟨by simp, @Denotes.range _ (lower ++ gap) (gap' ++ upper) _ _ (by simp) ?_ ?_ ?_ ordered⟩
    · have free : '-' ∉ gap := Text.paddingFree isGap '-' (by decide)
      have digits : '-' ∉ lower := Text.numeralFree isLower (by decide)
      simp [free, digits]
    · rwa [Text.trimBehind isGap, Text.trimTrimmed low]
    · rwa [Text.trimBefore isGap', Text.trimTrimmed up]

theorem entriesUncut (h : ',' ∉ piece) :
    entries piece = if Text.trim piece = [] then [] else [Text.trim piece] := by
  by_cases blank : Text.trim piece = [] <;> simp [entries, Text.splitNowhere h, blank]

theorem spellsParses (h : Spells piece said) : parse piece = .ok said.toList := by
  rw [parse, entriesUncut (spellsUncut h)]
  cases said with
  | none =>
    rw [if_pos (spellsNothing h)]
    rfl
  | some s =>
    obtain ⟨filled, denotes⟩ := spellsSpan h
    rw [if_neg filled]
    exact readEntriesEach.mpr (.cons denotes .nil)

theorem spelledParses (h : Spelled list spans) : parse list = .ok spans := by
  induction h with
  | last spells => exact spellsParses spells
  | comma spells next ih =>
    rw [parseJoined, spellsParses spells, ih]
    rfl

theorem spanTextSpells (ordered : s.first ≤ s.last) : Spells (spanText s) (some s) := by
  have none := Text.paddingNil
  have numeral : ∀ c : Code, Text.IsNumeral c.toText c.toNat := fun c => Text.ofNatIsNumeral _
  obtain ⟨first, last⟩ := s
  unfold spanText
  split
  · rename_i single
    cases single
    simpa using Spells.code none none (numeral first)
  · have padding : ∀ p ∈ [[], [], [], []], Text.IsPadding p := by simp [none]
    simpa using Spells.range padding (numeral first) (numeral last) ordered

theorem listTextSpelled (ordered : ∀ s ∈ spans, s.first ≤ s.last) :
    Spelled (listText spans) spans := by
  induction spans with
  | nil => exact .last (.nothing Text.paddingNil)
  | cons s rest ih =>
    obtain ⟨own, others⟩ := List.forall_mem_cons.mp ordered
    cases rest with
    | nil =>
      have single : listText [s] = spanText s := List.intercalate_singleton
      rw [single]
      exact .last (spanTextSpells own)
    | cons t more =>
      have joined : listText (s :: t :: more) = spanText s ++ ',' :: listText (t :: more) := by
        simp [listText, List.intercalate_cons_of_ne_nil]
      rw [joined]
      exact .comma (spanTextSpells own) (ih others)

end CrsExport.CodeList
