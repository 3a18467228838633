import CrsExport.Proofs.Definition.Normal
import CrsExport.Proofs.Text.Runs
/-! Normal forms by the runs of a text. The runs alone decide whether a text is accepted, and they
are all that is kept of it. -/

namespace CrsExport.Definition

variable {code : Code} {d t : Text} {ws : List Text}

theorem runsProject : (∃ w, Text.IsRun d w ∧ projKeyword <+: w) ↔
    ∃ w ∈ Text.words d, projKeyword <+: w := by
  simp only [Text.runIff]

theorem runless : (∀ w, ¬ Text.IsRun d w) ↔ Text.words d = [] := by
  simp only [Text.runIff, List.eq_nil_iff_forall_not_mem]

theorem normalizeSucceeds : (∃ t, normalize code d = .ok t) ↔
    ∃ w, Text.IsRun d w ∧ projKeyword <+: w := by
  rw [runsProject]
  constructor
  · rintro ⟨t, accepted⟩
    exact (normalizeAccepted accepted).2.2
  · exact fun named => ⟨_, normalizeUsable code named⟩

theorem normalizeRuns (h : normalize code d = .ok t) (runs : Text.Runs d ws) :
    t = Text.ofWords ws ∧ Text.Runs t ws := by
  obtain ⟨rfl, _, _⟩ := normalizeAccepted h
  rw [Text.runsIff] at runs
  subst runs
  have areWords : ∀ w ∈ Text.words d, Text.IsWord w := fun w hw => Text.wordsAreWords hw
  exact ⟨rfl, Text.runsIff.mpr (Text.wordsOfWords areWords).symm⟩

theorem normalizeReason (h : ¬ ∃ w, Text.IsRun d w ∧ projKeyword <+: w) :
    ∃ reason, normalize code d = .error (.unsupportedDefinition code reason) ∧
      (reason = emptyReason ↔ ∀ w, ¬ Text.IsRun d w) := by
  rw [runsProject] at h
  rw [normalizeByWords, if_neg h, runless]
  split
  · rename_i empty
    exact ⟨emptyReason, rfl, by simp [empty]⟩
  · rename_i some
    have other : missingReason ≠ emptyReason := by decide
    exact ⟨missingReason, rfl, by simp [some, other]⟩

theorem normalizeSameRuns {d' : Text} (runs : Text.Runs d ws) (runs' : Text.Runs d' ws)
    (code : Code) : normalize code d' = normalize code d := by
  rw [Text.runsIff] at runs runs'
  rw [normalizeByWords, normalizeByWords, ← runs, ← runs']

theorem normalizedByRuns (code : Code) (d : Text) :
    (∃! ws, Text.Runs d ws) ∧
    (∀ ws, Text.Runs d ws → ∀ w, w ∈ ws ↔ Text.IsRun d w) ∧
    ((∃ t, normalize code d = .ok t) ↔ ∃ w, Text.IsRun d w ∧ text "+proj=" <+: w) ∧
    (∀ t ws, normalize code d = .ok t → Text.Runs d ws →
      t = [' '].intercalate ws ∧ Text.Runs t ws) ∧
    ((¬ ∃ w, Text.IsRun d w ∧ text "+proj=" <+: w) →
      ∃ reason, normalize code d = .error (.unsupportedDefinition code reason) ∧
        (reason = text "empty definition" ↔ ∀ w, ¬ Text.IsRun d w)) ∧
    (∀ d' ws, Text.Runs d ws → Text.Runs d' ws → normalize code d' = normalize code d) ∧
    ∀ t, normalize code d = .ok t → ∀ other, normalize other t = .ok t := by
  refine ⟨⟨Text.words d, Text.runsIff.mpr rfl, fun ws runs => Text.runsIff.mp runs⟩,
    fun ws runs w => ?_, normalizeSucceeds, fun t ws accepted runs => normalizeRuns accepted runs,
    normalizeReason, fun d' ws runs runs' => normalizeSameRuns runs runs' code,
    fun t accepted => normalizeAgain accepted⟩
  rw [Text.runsIff.mp runs, Text.runIff]

/- The keyword in the middle of a run does not count, and an ideographic space is a blank. -/
def scattered : Text := text "\t+a=+proj= \u3000+proj=utm\n+zone=31\r\n"

def unprojected : Text := text "+a=+proj=\u3000+projutm"

theorem scatteredNormalized :
    normalize 7 scattered = .ok (text "+a=+proj= +proj=utm +zone=31") ∧
      normalize 9 (text "+a=+proj= +proj=utm +zone=31") =
        .ok (text "+a=+proj= +proj=utm +zone=31") ∧
      ∃ reason, normalize 7 unprojected = .error (.unsupportedDefinition 7 reason) ∧
        reason ≠ text "empty definition" := by
  have runs : Text.Runs scattered [text "+a=+proj=", text "+proj=utm", text "+zone=31"] :=
    Text.runsIff.mpr (by decide +kernel)
  have utm : Text.IsRun scattered (text "+proj=utm") := Text.runIff.mpr (by decide +kernel)
  have unnamed : ∀ w ∈ Text.words unprojected, ¬ text "+proj=" <+: w := by decide +kernel
  have first : Text.IsRun unprojected (text "+projutm") := Text.runIff.mpr (by decide +kernel)
  obtain ⟨_, _, accepts, form, _, _, again⟩ := normalizedByRuns 7 scattered
  obtain ⟨_, _, _, _, refuses, _, _⟩ := normalizedByRuns 7 unprojected
  obtain ⟨t, accepted⟩ := accepts.mpr ⟨_, utm, by decide⟩
  obtain ⟨rfl, _⟩ := form t _ accepted runs
  obtain ⟨reason, refused, empty⟩ := refuses fun ⟨w, run, named⟩ =>
    unnamed w (Text.runIff.mp run) named
  exact ⟨accepted, again _ accepted 9, reason, refused, fun same => empty.mp same _ first⟩

end CrsExport.Definition
