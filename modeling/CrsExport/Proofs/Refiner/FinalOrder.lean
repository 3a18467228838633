import CrsExport.Proofs.Definition.Alike
import CrsExport.Refiner
/-! Refined definitions are in order. A refiner puts a definition in order before it does
anything else with it, and what it hands out is in order again, whatever its substitutions have
made of the text in between. -/

namespace CrsExport.Refiner
open Definition (Edit reorder)

variable {r : Refiner} {d d' : Text}

theorem refineOrdered (same : reorder r.order d = reorder r.order d') (code : Code) :
    r.refine d code = r.refine d' code := by
  rw [refine, extend, same]
  rfl

/- The substitutions are not known to do anything sensible: they may be any functions on text. -/
theorem refinedInFinalOrder :
    (∀ order d, reorder order (reorder order d) = reorder order d) ∧
    ∀ (r : Refiner) (code : Code),
      (∀ d, r.refine (reorder r.order d) code = r.refine d code) ∧
      (∀ d d', Relation.EqvGen (Edit r.order) (Text.words d) (Text.words d') →
        r.refine d code = r.refine d' code) ∧
      ∀ d, reorder r.order (r.refine d code) = r.refine d code := by
  refine ⟨Definition.reorderAgain, fun r code => ⟨fun d => ?_, fun d d' edits => ?_, fun d => ?_⟩⟩
  · exact refineOrdered (Definition.reorderAgain r.order d) code
  · exact refineOrdered (Definition.reorderSame.mpr (Definition.editsAlike edits)) code
  · exact Definition.reorderAgain r.order _

/- The order names a parameter twice, and the substitutions leave line feeds and a parameter that
is given twice. -/
def untidy : Refiner where
  order := [text "proj", text "proj"]
  additions := text "+a=0"
  unitSubstitutions := [fun t => t ++ text "\n+no_defs"]
  codeSubstitutions := [⟨[⟨1, 5⟩], fun t => text "+no_defs=1 " ++ t⟩]

theorem untidyInFinalOrder :
    let d := text "+a=1 +proj=utm +a=2"
    let d' := text "+proj=utm\t +a=2"
    Relation.EqvGen (Edit untidy.order) (Text.words d) (Text.words d') ∧
      untidy.refine d 5 = text "+proj=utm +proj=utm +no_defs +a=0" ∧
      untidy.refine d' 5 = untidy.refine d 5 ∧
      reorder untidy.order (untidy.refine d 5) = untidy.refine d 5 := by
  intro d d'
  let utm := text "+proj=utm"
  let a := text "+a=2"
  have overwritten : Edit untidy.order (Text.words d) [a, utm] :=
    @Edit.overwritten _ [] [utm] [] (text "+a=1") a (by decide) (by decide)
  have moved : Edit untidy.order (Text.words d') [a, utm] :=
    @Edit.moved _ [] [a] [] utm (by decide) (by decide)
  have edits := Relation.EqvGen.trans _ _ _ (.rel _ _ overwritten) (.symm _ _ (.rel _ _ moved))
  obtain ⟨_, refined⟩ := refinedInFinalOrder
  obtain ⟨_, same, final⟩ := refined untidy 5
  exact ⟨edits, by decide +kernel, (same d d' edits).symm, final d⟩

end CrsExport.Refiner
