import CrsExport.Proofs.Definition.Normal
import CrsExport.Proofs.Definition.Sorted
/-! Definitions that can be used once they are in order. A flag takes the place of an earlier value
like any other word, so it is the last word on the projection that has to give one. -/

namespace CrsExport.Definition

variable {order : List Text} {d w : Text}

def projKey : Text := text "+proj"

def Projects (ws : List Text) : Prop := ∃ w, latest ws projKey = some w ∧ '=' ∈ w

theorem keywordIff : projKeyword <+: w ↔ key w = projKey ∧ '=' ∈ w := by
  have keyword : projKeyword = projKey ++ ['='] := by decide
  constructor
  · rintro ⟨value, rfl⟩
    have passed : ∀ c ∈ projKey, (c != '=') = true := List.all_eq_true.mp (by decide)
    rw [keyword, List.append_assoc]
    exact ⟨by simp [key, List.takeWhile_append_of_pos passed], by simp⟩
  · rintro ⟨same, valued⟩
    obtain ⟨free, whole | ⟨value, split⟩⟩ := keyCut w
    · rw [whole] at valued
      exact absurd valued free
    · exact ⟨value, by rw [split, same, keyword]; simp⟩

theorem orderedEmpty : Text.words (reorder order d) = [] ↔ Text.words d = [] := by
  have same : keys (reorder order d) = [] ↔ keys d = [] := by
    simp only [List.eq_nil_iff_forall_not_mem, keysKept]
  simpa [keys] using same

theorem orderedUsable (order : List Text) (d : Text) :
    (∃ w ∈ Text.words (reorder order d), projKeyword <+: w) ↔ Projects (Text.words d) := by
  simp only [wordsReordered, sortedMem, keywordIff]
  constructor
  · rintro ⟨w, found, same, valued⟩
    exact ⟨w, same ▸ found, valued⟩
  · rintro ⟨w, found, valued⟩
    have same := latestKey found
    exact ⟨w, same ▸ found, same, valued⟩

theorem orderedAccepted (code : Code) (order : List Text) (d : Text) :
    normalize code (reorder order d) = .ok (reorder order d) ↔ Projects (Text.words d) := by
  rw [← orderedUsable order]
  constructor
  · intro accepted
    exact (normalizeAccepted accepted).2.2
  · intro usable
    rw [normalizeUsable code usable, wordsReordered, ← reorderSorted]

theorem orderedRefused (code : Code) (order : List Text) (h : ¬ Projects (Text.words d)) :
    normalize code (reorder order d) = .error (.unsupportedDefinition code
      (if Text.words d = [] then emptyReason else missingReason)) := by
  rw [← orderedUsable order] at h
  rw [normalizeByWords, if_neg h]
  simp only [orderedEmpty]
  split <;> rfl

/- A flag has no value, whatever was said of the projection before it. -/
theorem flagLast {before after : List Text} (last : projKey ∉ after.map key) :
    ¬ Projects (before ++ projKey :: after) := by
  rintro ⟨w, found, valued⟩
  have flag : latest (before ++ projKey :: after) projKey = some projKey :=
    latestIff.mpr ⟨before, after, rfl, by decide, last⟩
  cases flag.symm.trans found
  exact absurd valued (by decide)

end CrsExport.Definition
