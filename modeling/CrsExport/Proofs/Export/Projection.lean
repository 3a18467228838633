import CrsExport.Proofs.Definition.Projection
import CrsExport.Proofs.Export.Record
import CrsExport.Proofs.Refiner.Additions
/-! Rows of codes for which a refiner has nothing to substitute. Whether there is a row is decided
by the last word on the projection, be it the definition that has it or the additions. -/

namespace CrsExport.Exporter
open Definition (key latest projKey reorder emptyReason missingReason)

variable {x : Exporter} {r : Refiner} {crs : ReferenceSystem} {p g : Text} {code : Code}

section
variable (kept : x.refiner = some r) (found : x.resolver.resolve code = .ok crs)
  (handed : x.resolver.toProjString crs = .ok p) (idle : r.Unsubstituted code)
  (added : r.Appends g)
include kept found handed idle added

theorem recordOrdered : x.record code =
    (Definition.normalize code (reorder r.order (p ++ ' ' :: g))).map (⟨code, ·⟩) := by
  simp only [record, found, handed, kept, Refiner.refineOnce idle added]

theorem recordProjecting (h : Definition.Projects (Text.words p ++ Text.words g)) :
    x.record code = .ok ⟨code, reorder r.order (p ++ ' ' :: g)⟩ := by
  rw [← Text.wordsSpaced] at h
  rw [recordOrdered kept found handed idle added,
    (Definition.orderedAccepted code r.order _).mpr h]
  rfl

theorem recordFlagged (h : ¬ Definition.Projects (Text.words p ++ Text.words g)) :
    x.record code = .error (.unsupportedDefinition code
      (if Text.words p = [] ∧ Text.words g = [] then emptyReason else missingReason)) := by
  rw [← Text.wordsSpaced] at h
  have nothing : Text.words (p ++ ' ' :: g) = [] ↔ Text.words p = [] ∧ Text.words g = [] := by
    rw [Text.wordsSpaced, List.append_eq_nil_iff]
  rw [recordOrdered kept found handed idle added, Definition.orderedRefused code r.order h]
  simp only [nothing]
  rfl

end

theorem lastWordDecides (kept : x.refiner = some r) (found : x.resolver.resolve code = .ok crs)
    (handed : x.resolver.toProjString crs = .ok p) (idle : r.Unsubstituted code)
    (added : r.Appends g) :
    let ws := Text.words p ++ Text.words g
    ((∃ row, x.record code = .ok row) ↔ ∃ w, latest ws projKey = some w ∧ '=' ∈ w) ∧
    (∀ row, x.record code = .ok row → row = ⟨code, reorder r.order (p ++ ' ' :: g)⟩) ∧
    (∀ e, x.record code = .error e → e = .unsupportedDefinition code
      (if Text.words p = [] ∧ Text.words g = [] then emptyReason else missingReason)) ∧
    ∀ before after, ws = before ++ projKey :: after → projKey ∉ after.map key →
      x.record code = .error (.unsupportedDefinition code missingReason) := by
  intro ws
  have accepted := recordProjecting kept found handed idle added
  have refused := recordFlagged kept found handed idle added
  refine ⟨⟨fun ⟨row, h⟩ => ?_, fun h => ⟨_, accepted h⟩⟩, fun row h => ?_, fun e h => ?_,
    fun before after split last => ?_⟩
  · by_contra flagged
    cases h.symm.trans (refused flagged)
  · by_cases projects : Definition.Projects ws
    · exact Except.ok.inj (h.symm.trans (accepted projects))
    · cases h.symm.trans (refused projects)
  · by_cases projects : Definition.Projects ws
    · cases h.symm.trans (accepted projects)
    · exact Except.error.inj (h.symm.trans (refused projects))
  · have flagged : ¬ Definition.Projects ws := split ▸ Definition.flagLast last
    have worded : ws ≠ [] := by simp [split]
    rw [refused flagged, if_neg (mt List.append_eq_nil_iff.mpr worded)]

/- The flag is in the definition, behind a value. Without additions it stands. -/
def early (additions : Text) : Refiner where
  additions := additions
  codeSubstitutions := [⟨[⟨1, 6⟩], fun _ => []⟩]

def flagged (additions : Text) : Exporter where
  resolver := Database.resolver fun _ => some { proj4 := "+proj=utm +proj\t+zone=31" }
  refiner := some (early additions)

theorem flagSkipsUnlessValued :
    let crs : ReferenceSystem := ⟨7, text "+proj=utm +proj\t+zone=31", none⟩
    let p := text "+proj=utm +proj +zone=31"
    (∀ additions, (flagged additions).resolver.resolve 7 = .ok crs ∧
      (flagged additions).resolver.toProjString crs = .ok p ∧
      (early additions).Unsubstituted 7) ∧
    (flagged []).record 7 = .error (.unsupportedDefinition 7 missingReason) ∧
    (flagged (text "+proj=")).record 7 = .ok ⟨7, text "+proj= +zone=31"⟩ := by
  intro crs p
  have normal : Definition.normalize 7 crs.proj4 = .ok p := by decide +kernel
  have idle : ∀ additions, (early additions).Unsubstituted 7 :=
    fun _ => ⟨rfl, List.forall_mem_singleton.mpr rfl⟩
  have decided := fun additions => @lastWordDecides (flagged additions) (early additions) crs p
    additions 7 rfl rfl normal (idle additions) (.inl rfl)
  refine ⟨fun additions => ⟨rfl, normal, idle additions⟩, ?_, ?_⟩
  · obtain ⟨-, -, -, skipped⟩ := decided []
    exact skipped [text "+proj=utm"] [text "+zone=31"] (by decide +kernel) (by decide)
  · obtain ⟨written, whole, -⟩ := decided (text "+proj=")
    obtain ⟨row, kept⟩ := written.mpr ⟨text "+proj=", by decide +kernel, by decide⟩
    have ordered : reorder [] (p ++ ' ' :: text "+proj=") = text "+proj= +zone=31" := by
      decide +kernel
    have same := whole row kept
    rw [kept, same]
    exact congrArg (fun d => Except.ok (ExportRecord.mk 7 d)) ordered

end CrsExport.Exporter
