import CrsExport.Proofs.Definition.Edits
import CrsExport.Proofs.Refiner.FinalOrder
/-! Definitions all of whose parameters an order names. Put in order they are the same if they say
the same of each parameter, however they are written, and in no other case; a refiner then cannot
tell them apart. -/

namespace CrsExport.Refiner
open Definition (Edit keyOf keys latest reorder)

theorem sameInOrderIff (order : List Text) (d d' : Text)
    (named : ∀ k ∈ keys d, k ∈ order.map keyOf) (named' : ∀ k ∈ keys d', k ∈ order.map keyOf) :
    (reorder order d = reorder order d' ↔
      (∀ k, k ∈ keys d ↔ k ∈ keys d') ∧
        ∀ k ∈ keys d, latest (Text.words d) k = latest (Text.words d') k) ∧
    (reorder order d = reorder order d' ↔
      Relation.EqvGen (Edit order) (Text.words d) (Text.words d')) ∧
    (reorder order d = reorder order d' →
      ∀ r : Refiner, r.order = order → ∀ code, r.refine d code = r.refine d' code) := by
  refine ⟨?_, Definition.reorderSameEdits, fun same r ordered code => ?_⟩
  · exact Definition.reorderSame.trans (Definition.alikeNamed named named')
  · subst ordered
    exact refineOrdered same code

/- A flag and an empty value are two values of one parameter. -/
theorem flagIsNoEmptyValue :
    let order := [text "a", text "proj", text "a"]
    let d := text "+proj=utm +a +a="
    let d' := text "+a=\t+proj=utm"
    (∀ k ∈ keys d, k ∈ order.map keyOf) ∧ (∀ k ∈ keys d', k ∈ order.map keyOf) ∧
      reorder order d = reorder order d' ∧
      reorder order d ≠ reorder order (text "+a +proj=utm") ∧
      ∀ r : Refiner, r.order = order → r.refine d 1 = r.refine d' 1 := by
  intro order d d'
  have named : ∀ k ∈ keys d, k ∈ order.map keyOf := by decide +kernel
  have named' : ∀ k ∈ keys d', k ∈ order.map keyOf := by decide +kernel
  have flagNamed : ∀ k ∈ keys (text "+a +proj=utm"), k ∈ order.map keyOf := by decide +kernel
  obtain ⟨iff, -, refines⟩ := sameInOrderIff order d d' named named'
  obtain ⟨flagIff, -, -⟩ := sameInOrderIff order d (text "+a +proj=utm") named flagNamed
  have present : keys d = [text "+proj", text "+a", text "+a"] := by decide +kernel
  have present' : keys d' = [text "+a", text "+proj"] := by decide +kernel
  have values : ∀ k ∈ keys d, latest (Text.words d) k = latest (Text.words d') k := by
    decide +kernel
  have same := iff.mpr ⟨fun k => by simp [present, present', or_comm], values⟩
  refine ⟨named, named', same, fun merged => ?_, fun r ordered => refines same r ordered 1⟩
  have flag := (flagIff.mp merged).2 (text "+a") (by simp [present])
  exact absurd flag (by decide +kernel)

end CrsExport.Refiner
