import Mathlib.Data.List.Forall2
import CrsExport.Proofs.CodeList.Spans
import CrsExport.Proofs.Text.Numeral
import CrsExport.Proofs.Text.Words
/-! The grammar of code lists. A list is read exactly if each of its entries is a code or a range;
else the first one that is neither is reported, whatever stands behind it. -/

namespace CrsExport.CodeList

/-- What an entry stands for: a code, or what lies between two codes on either side of its first
hyphen, the second one not below the first. -/
inductive Denotes (entry : Text) : CodeSpan → Prop where
  | code {c : Code} (numeral : Text.IsNumeral entry c.toNat) : Denotes entry ⟨c, c⟩
  | range {a b : Text} {first last : Code} (cut : entry = a ++ '-' :: b) (leftmost : '-' ∉ a)
      (lower : Text.IsNumeral (Text.trim a) first.toNat)
      (upper : Text.IsNumeral (Text.trim b) last.toNat) (ordered : first ≤ last) :
      Denotes entry ⟨first, last⟩

variable {entry e : Text} {es fs : List Text} {s : CodeSpan} {spans : List CodeSpan}

theorem readEntryIff : readEntry entry = some s ↔ Denotes entry s := by
  constructor
  · intro h
    unfold readEntry at h
    split at h
    · rename_i a b cut
      obtain ⟨joined, leftmost⟩ := Text.splitFirstIff.mp cut
      split at h
      · rename_i first last lower upper
        split at h
        · rename_i ordered
          cases h
          exact .range joined leftmost (Code.readIff.mp lower) (Code.readIff.mp upper) ordered
        · cases h
      · cases h
    · obtain ⟨c, read, rfl⟩ := Option.map_eq_some_iff.mp h
      exact .code (Code.readIff.mp read)
  · intro h
    cases h with
    | code numeral =>
      have whole : Text.splitFirst '-' entry = none :=
        Text.splitFirstNone.mpr (Text.numeralFree numeral (by decide))
      simp [readEntry, whole, Code.readIff.mpr numeral]
    | range cut leftmost lower upper ordered =>
      have cut := Text.splitFirstIff.mpr ⟨cut, leftmost⟩
      simp [readEntry, cut, Code.readIff.mpr lower, Code.readIff.mpr upper, ordered]

theorem readEntryNone : readEntry entry = none ↔ ∀ s, ¬ Denotes entry s := by
  simp [Option.eq_none_iff_forall_ne_some, readEntryIff]

theorem readEntriesEach : readEntries es = .ok spans ↔ List.Forall₂ Denotes es spans := by
  induction es generalizing spans with
  | nil => simp [readEntries, eq_comm]
  | cons entry es ih =>
    rw [readEntriesCons, List.forall₂_cons_left_iff]
    simp only [readEntryIff, ih]

theorem readEntriesFind :
    readEntries es = .error e ↔ es.find? (fun e => (readEntry e).isNone) = some e := by
  induction es with
  | nil => simp [readEntries]
  | cons entry es ih =>
    rw [readEntries, List.find?_cons]
    cases readEntry entry with
    | none => simp
    | some s =>
      rw [Option.isNone_some, ← ih]
      cases readEntries es <;> simp [Except.map]

theorem readEntriesRefused : readEntries es = .error e ↔
    ∃ front back, es = front ++ e :: back ∧ (∀ f ∈ front, ∃ s, Denotes f s) ∧
      ∀ s, ¬ Denotes e s := by
  have denotes : ∀ f, (!(readEntry f).isNone) = true ↔ ∃ s, Denotes f s := by
    intro f
    simp only [← readEntryIff]
    cases readEntry f <;> simp
  rw [readEntriesFind, List.find?_eq_some_iff_append]
  simp only [Option.isNone_iff_eq_none, readEntryNone, denotes]
  constructor
  · rintro ⟨refused, front, back, split, kept⟩
    exact ⟨front, back, split, kept, refused⟩
  · rintro ⟨front, back, split, kept, refused⟩
    exact ⟨refused, front, back, split, kept⟩

theorem readEntriesAppend : readEntries (es ++ fs) =
    match readEntries es with
    | .error e => .error e
    | .ok spans => (readEntries fs).map (spans ++ ·) := by
  induction es with
  | nil =>
    rw [List.nil_append, readEntries]
    cases readEntries fs <;> rfl
  | cons entry es ih =>
    simp only [List.cons_append, readEntries, ih]
    cases readEntry entry with
    | none => rfl
    | some s =>
      cases readEntries es with
      | error e => rfl
      | ok spans => cases readEntries fs <;> rfl

theorem readEntriesSucceed : (∃ spans, readEntries es = .ok spans) ↔
    ∀ e ∈ es, ∃ s, Denotes e s := by
  simp only [readEntriesEach]
  induction es with
  | nil => simp
  | cons entry es ih => simp [List.forall₂_cons_left_iff, ← ih]

theorem entriesJoined (x y : Text) : entries (x ++ ',' :: y) = entries x ++ entries y := by
  simp only [entries, Text.splitAt, List.map_append, List.filter_append]

theorem parseJoined (x y : Text) : parse (x ++ ',' :: y) =
    match parse x with
    | .error e => .error e
    | .ok spans => (parse y).map (spans ++ ·) := by
  rw [parse, entriesJoined, readEntriesAppend]
  rfl

theorem entriesCut (list : Text) : ∃ pieces, pieces ≠ [] ∧ (∀ p ∈ pieces, ',' ∉ p) ∧
    [','].intercalate pieces = list ∧
    entries list = (pieces.map Text.trim).filter (· ≠ []) := by
  refine ⟨Text.splitWhen (· == ',') list, Text.splitWhenInhabited _ _, fun p hp comma => ?_, ?_, ?_⟩
  · exact absurd (Text.pieceUncut hp ',' comma) (by decide)
  · rw [Text.splitWhenOnP, ← List.splitOn_eq_splitOnP, List.intercalate_splitOn]
  · refine List.filter_congr fun e _ => ?_
    cases e <;> rfl

/- Every text is the list of some pieces; what is said of it is said of the ones that are not
blank. -/
theorem listsReadByEntry :
    (∀ list,
      (∃ pieces, pieces ≠ [] ∧ (∀ p ∈ pieces, ',' ∉ p) ∧ [','].intercalate pieces = list ∧
        entries list = (pieces.map Text.trim).filter (· ≠ [])) ∧
      ((∃ spans, parse list = .ok spans) ↔ ∀ e ∈ entries list, ∃ s, Denotes e s) ∧
      (∀ spans, parse list = .ok spans ↔ List.Forall₂ Denotes (entries list) spans) ∧
      ∀ e, parse list = .error e ↔ ∃ front back, entries list = front ++ e :: back ∧
        (∀ f ∈ front, ∃ s, Denotes f s) ∧ ∀ s, ¬ Denotes e s) ∧
    ∀ x y, parse (x ++ ',' :: y) =
      match parse x, parse y with
      | .error e, _ => .error e
      | .ok _, .error e => .error e
      | .ok spans, .ok more => .ok (spans ++ more) := by
  refine ⟨fun list => ⟨entriesCut list, readEntriesSucceed, fun _ => readEntriesEach,
    fun _ => readEntriesRefused⟩, fun x y => ?_⟩
  rw [parseJoined]
  cases parse x with
  | error e => rfl
  | ok spans => cases parse y <;> rfl

/- The second entry is cut at the first of its hyphens, and the third one is not looked at. -/
theorem secondEntryRefused :
    parse (text ",+4 -\t007,, 1-2-3 ,9-8") = .error (text "1-2-3") ∧
      parse (text ",+4 -\t007,, 8") = .ok [⟨4, 7⟩, ⟨8, 8⟩] ∧
      parse (text ",+4 -\t007,, 8,4294967296,-1") = .error (text "4294967296") := by
  obtain ⟨reads, joins⟩ := listsReadByEntry
  have range : Denotes (text "+4 -\t007") ⟨4, 7⟩ := readEntryIff.mp (by decide +kernel)
  have single : Denotes (text "8") ⟨8, 8⟩ := readEntryIff.mp (by decide +kernel)
  have greater : ∀ s, ¬ Denotes (text "4294967296") s := readEntryNone.mp (by decide +kernel)
  have hyphens : ∀ s, ¬ Denotes (text "1-2-3") s := readEntryNone.mp (by decide +kernel)
  have first : entries (text ",+4 -\t007,, 1-2-3 ,9-8") =
      [text "+4 -\t007"] ++ text "1-2-3" :: [text "9-8"] := by decide +kernel
  have second : entries (text ",+4 -\t007,, 8") = [text "+4 -\t007", text "8"] := by
    decide +kernel
  have third : entries (text "4294967296,-1") = [] ++ text "4294967296" :: [text "-1"] := by
    decide +kernel
  have read : parse (text ",+4 -\t007,, 8") = .ok [⟨4, 7⟩, ⟨8, 8⟩] := by
    refine ((reads _).2.2.1 _).mpr ?_
    rw [second]
    exact .cons range (.cons single .nil)
  have refused : parse (text "4294967296,-1") = .error (text "4294967296") :=
    ((reads _).2.2.2 _).mpr ⟨_, _, third, by simp, greater⟩
  refine ⟨((reads _).2.2.2 _).mpr ⟨_, _, first, ?_, hyphens⟩, read, ?_⟩
  · simpa using ⟨_, range⟩
  · have joined := joins (text ",+4 -\t007,, 8") (text "4294967296,-1")
    rw [read, refused] at joined
    exact joined

end CrsExport.CodeList
