import CrsExport.Proofs.Definition.Alike
import CrsExport.Proofs.Refiner.Scope
import CrsExport.Proofs.Text.Trim
/-! Refiners that have nothing to substitute for a code. They put its definition in order and
append to it, and it does not show that they put it in order twice: what they append counts as if
it had stood behind the definition from the start. -/

namespace CrsExport.Refiner
open Definition (key keyOf latest otherKeys reorder)

variable {ε : Type} {compile : PatternCompiler ε} {rules : RefinementRules} {r : Refiner}
  {code : Code} {g : Text}

structure Unsubstituted (r : Refiner) (code : Code) : Prop where
  units : r.unitSubstitutions = []
  codes : ∀ s ∈ r.codeSubstitutions, s.covers code = false

/- The rules may have blanks around the additions, which a refiner does not keep. -/
def Appends (r : Refiner) (g : Text) : Prop := g = r.additions ∨ Text.trim g = r.additions

theorem rulesAppend (h : Checked compile rules r) : r.Appends rules.additions :=
  .inr h.additions.symm

theorem rulesUnsubstituted (h : Checked compile rules r) (units : rules.unitRules = [])
    (codes : ∀ rule ∈ rules.codeRules, rule.lists code = false) : r.Unsubstituted code := by
  have none : rules.substitutionsFor code = [] := by
    have unlisted : rules.codeRules.filter (·.lists code) = [] :=
      List.filter_eq_nil_iff.mpr fun rule hr => by simp [codes rule hr]
    rw [RefinementRules.substitutionsFor, unlisted, List.map_nil]
  have counted := substitutionsCounted h code
  rw [none, List.length_nil, substitutionsFor, List.length_eq_zero_iff] at counted
  refine ⟨?_, fun s hs => by simpa using List.filter_eq_nil_iff.mp counted s hs⟩
  have passed := h.units
  rw [units] at passed
  exact (Except.ok.inj passed).symm

theorem appendsWords (h : r.Appends g) : Text.words g = Text.words r.additions := by
  rcases h with rfl | trimmed
  · rfl
  · rw [← trimmed, Text.trimWords]

theorem substituteNothing (h : r.Unsubstituted code) (t : Text) : r.substitute code t = t := by
  have none : r.codeSubstitutions.filter (·.covers code) = [] :=
    List.filter_eq_nil_iff.mpr fun s hs => by simp [h.codes s hs]
  rw [substitute, h.units, none]
  rfl

theorem extendWords (r : Refiner) (d : Text) :
    Text.words (r.extend d) = Text.words (reorder r.order d) ++ Text.words r.additions := by
  unfold extend
  cases r.additions with
  | nil => exact (List.append_nil _).symm
  | cons c rest => exact Text.wordsSpaced _ _

theorem refineOnce (h : r.Unsubstituted code) (added : r.Appends g) (d : Text) :
    r.refine d code = reorder r.order (d ++ ' ' :: g) := by
  have ordered := Definition.alikeReordered r.order d
  rw [refine, substituteNothing h, Definition.reorderSame, extendWords, Text.wordsSpaced,
    appendsWords added]
  exact Definition.alikeAppend ordered _

theorem refineAgain (h : r.Unsubstituted code) (d : Text) :
    r.refine (r.refine d code) code = r.refine d code := by
  have once := refineOnce h (.inl rfl)
  have ordered := Definition.alikeReordered r.order (d ++ ' ' :: r.additions)
  rw [once (r.refine d code), once d, Definition.reorderSame, Text.wordsSpaced]
  rw [Text.wordsSpaced] at ordered ⊢
  exact (Definition.alikeAppend ordered _).trans (Definition.alikeTwice r.order _ _)

/- The parameters of the definition stay where they would be without the additions, be their
values kept or not. -/
theorem additionsOverride (r : Refiner) (code : Code) (h : r.Unsubstituted code) :
    (∀ d g, r.Appends g → r.refine d code = reorder r.order (d ++ ' ' :: g)) ∧
    (∀ d g, r.Appends g →
      let own := Text.words d
      let added := Text.words g
      let value := fun k => (latest added k).or (latest own k)
      Text.words (r.refine d code) =
        r.order.filterMap (fun name => value (keyOf name)) ++
          ((otherKeys r.order own).filterMap value ++
            ((otherKeys r.order added).filter (· ∉ own.map key)).filterMap (latest added))) ∧
    ∀ d, r.refine (r.refine d code) code = r.refine d code := by
  refine ⟨fun d g added => refineOnce h added d, fun d g added => ?_, refineAgain h⟩
  intro own new value
  rw [refineOnce h added, Definition.wordsReordered, Text.wordsSpaced,
    Definition.sortedAppend]

/- The order names a parameter twice, and the rule for some codes ends right before the one that
is refined. -/
def datumRules : RefinementRules where
  order := [text "proj", text "proj"]
  additions := text "\t+datum=NAD27 +no_defs "
  codeRules := [⟨text "utm", text "lcc", text "1-5"⟩]

theorem datumOverridden :
    let d := text "+datum=WGS84 +units=m +proj=utm"
    let refined := text "+proj=utm +proj=utm +datum=NAD27 +units=m +no_defs"
    ∃ r, ofRules datumRules = .ok r ∧ r.Unsubstituted 6 ∧ r.Appends datumRules.additions ∧
      r.refine d 6 = refined ∧ r.refine refined 6 = refined := by
  intro d refined
  have made : (ofRules datumRules).toOption.map (·.order) = some datumRules.order := by
    decide +kernel
  obtain ⟨r, accepted, order⟩ := ofRulesMade made
  have checked := ofRulesChecked accepted
  have idle : r.Unsubstituted 6 := rulesUnsubstituted checked rfl (by decide +kernel)
  have added := rulesAppend checked
  obtain ⟨once, -, again⟩ := additionsOverride r 6 idle
  have ordered : r.refine d 6 = refined := by
    rw [once d _ added, order]
    decide +kernel
  have settled := again d
  rw [ordered] at settled
  exact ⟨r, accepted, idle, added, ordered, settled⟩

end CrsExport.Refiner
