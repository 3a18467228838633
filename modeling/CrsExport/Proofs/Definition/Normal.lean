import CrsExport.Definition.Normal
import CrsExport.Proofs.Text.Words
/-! What is accepted as a definition, and in which form. Acceptance is decided by the words
alone; the accepted form is made of them, so it is accepted again as it stands. -/

namespace CrsExport.Definition

structure IsNormal (t : Text) : Prop extends Text.Tidy t where
  projection : ∃ w ∈ Text.words t, projKeyword <+: w

theorem normalizeByWords (code : Code) (d : Text) :
    normalize code d =
      if Text.words d = [] then .error (.unsupportedDefinition code emptyReason)
      else if ∃ w ∈ Text.words d, projKeyword <+: w then .ok (Text.ofWords (Text.words d))
      else .error (.unsupportedDefinition code missingReason) := by
  have areWords : ∀ w ∈ Text.words d, Text.IsWord w := fun w hw => Text.wordsAreWords hw
  unfold normalize
  by_cases empty : Text.words d = []
  · simp [empty, Text.ofWords]
  · have form : (Text.ofWords (Text.words d)).isEmpty = false := by
      simpa using fun h => empty ((Text.ofWordsNil areWords).mp h)
    simp only [form, Text.splitOfWords areWords empty, if_neg empty, Bool.false_eq_true, if_false]
    by_cases named : ∃ w ∈ Text.words d, projKeyword <+: w
    · rw [if_pos named, if_pos (by simpa [List.any_eq_true] using named)]
    · rw [if_neg named, if_neg (by simpa [List.any_eq_true] using named)]

theorem normalizeAccepted {code : Code} {d t : Text} (h : normalize code d = .ok t) :
    t = Text.ofWords (Text.words d) ∧ Text.words d ≠ [] ∧
      ∃ w ∈ Text.words d, projKeyword <+: w := by
  rw [normalizeByWords] at h
  split at h
  · contradiction
  · rename_i some
    split at h
    · rename_i named
      cases h
      exact ⟨rfl, some, named⟩
    · contradiction

theorem normalizeUsable {d : Text} (code : Code) (h : ∃ w ∈ Text.words d, projKeyword <+: w) :
    normalize code d = .ok (Text.ofWords (Text.words d)) := by
  obtain ⟨w, member, _⟩ := id h
  rw [normalizeByWords, if_neg (List.ne_nil_of_mem member), if_pos h]

theorem normalizeRefused {code : Code} {d : Text} {e : ResolveError}
    (h : normalize code d = .error e) : ∃ reason, e = .unsupportedDefinition code reason := by
  rw [normalizeByWords] at h
  split at h
  · cases h
    exact ⟨emptyReason, rfl⟩
  · split at h
    · cases h
    · cases h
      exact ⟨missingReason, rfl⟩

theorem normalizeIsNormal {code : Code} {d t : Text} (h : normalize code d = .ok t) :
    IsNormal t := by
  obtain ⟨rfl, some, named⟩ := normalizeAccepted h
  have areWords : ∀ w ∈ Text.words d, Text.IsWord w := fun w hw => Text.wordsAreWords hw
  have same := Text.wordsOfWords areWords
  exact ⟨Text.ofWordsTidy areWords some, by rw [same]; exact named⟩

/- Once accepted, a definition is accepted as it stands under any code. -/
theorem normalizeAgain {code : Code} {d t : Text} (h : normalize code d = .ok t) (other : Code) :
    normalize other t = .ok t := by
  obtain ⟨rfl, _, named⟩ := normalizeAccepted h
  have same : Text.words (Text.ofWords (Text.words d)) = Text.words d :=
    Text.wordsOfWords fun w hw => Text.wordsAreWords hw
  rw [normalizeUsable other (by rwa [same]), same]

/- The check of a text that is already made of words cannot change it. -/
theorem normalizeKeeps {code : Code} {ws : List Text} {t : Text}
    (areWords : ∀ w ∈ ws, Text.IsWord w) (h : normalize code (Text.ofWords ws) = .ok t) :
    t = Text.ofWords ws := by
  obtain ⟨eq, _, _⟩ := normalizeAccepted h
  rw [Text.wordsOfWords areWords] at eq
  exact eq

end CrsExport.Definition
