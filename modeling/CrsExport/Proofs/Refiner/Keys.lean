import CrsExport.Proofs.Definition.Keys
import CrsExport.Proofs.Refiner.Checked
/-! Parameters in refined definitions. What the substitutions leave is settled, so no parameter
is given twice for its own sake; a name that the rules list twice brings its parameter out
twice. -/

namespace CrsExport.Refiner
open Definition (keys keyOf)

structure KeysRefined (order : List Text) (r : Refiner) (definition : Text) (code : Code) :
    Prop where
  counts : ∀ k, (keys (r.refine definition code)).count k =
    if k ∈ keys (r.substitute code (r.extend definition)) then
      max 1 ((order.map keyOf).count k)
    else 0
  distinct : (keys (r.refine definition code)).Nodup ↔
    ∀ name ∈ order, keyOf name ∈ keys (r.substitute code (r.extend definition)) →
      order.count name = 1

theorem checkedKeys {ε : Type} {compile : PatternCompiler ε} {rules : RefinementRules}
    {r : Refiner} (checked : Checked compile rules r) (definition : Text) (code : Code) :
    KeysRefined rules.order r definition code := by
  rw [← checked.order]
  exact ⟨Definition.keysCount r.order _, Definition.keysDistinctIff r.order _⟩

/- Whether a key stands once is decided by the order and by what the last substitution leaves;
neither the definition nor the additions can repeat one. -/
theorem refinedKeysDistinctIff {ε : Type} (compile : PatternCompiler ε)
    (rules : RefinementRules) (r : Refiner) :
    (ofRulesWith compile rules = .ok r →
      ∀ definition code, KeysRefined rules.order r definition code) ∧
    ∀ document, loadDocument document = .ok r → ∃ rules, Rules.parse document = .ok rules ∧
      ∀ definition code, KeysRefined rules.order r definition code := by
  refine ⟨fun accepted => checkedKeys (ofRulesChecked accepted), fun document accepted => ?_⟩
  obtain ⟨rules, read, checked⟩ := documentChecked accepted
  exact ⟨rules, read, checkedKeys checked⟩

def unitsTwice : Text := text "\x7b\"order\":[\"proj\",\"units\",\"units\"]\x7d"

/- A name that stands twice does no harm to a definition that has another parameter twice and
this one not at all. -/
theorem repeatedUnitsShow :
    ∃ r, loadDocument unitsTwice = .ok r ∧
      ofRulesWith compilePattern { order := [text "proj", text "units", text "units"] } = .ok r ∧
      (keys (r.refine (text "+zone=1 +proj=utm +zone=2") 4326)).Nodup ∧
      (keys (r.refine (text "+units=m +proj=utm") 4326)).count (text "+units") = 2 := by
  let r : Refiner := { order := [text "proj", text "units", text "units"] }
  have accepted : loadDocument unitsTwice = .ok r := rfl
  have made : ofRulesWith compilePattern
      { order := [text "proj", text "units", text "units"] } = .ok r := rfl
  obtain ⟨compiled, loaded⟩ := refinedKeysDistinctIff compilePattern
    { order := [text "proj", text "units", text "units"] } r
  obtain ⟨rules, read, refined⟩ := loaded unitsTwice accepted
  have order : rules = { order := [text "proj", text "units", text "units"] } :=
    Except.ok.inj (read.symm.trans rfl)
  subst order
  refine ⟨r, accepted, made, (refined _ 4326).distinct.mpr (by decide +kernel), ?_⟩
  rw [(compiled made _ 4326).counts]
  decide +kernel

/- The definition has each of its parameters once. -/
theorem repeatedNameRepeats :
    ∃ r, loadDocument (text "\x7b\"order\":[\"proj\",\"proj\"]\x7d") = .ok r ∧
      r.refine (text "+proj=longlat +datum=WGS84") 4326 =
        text "+proj=longlat +proj=longlat +datum=WGS84" ∧
      ¬ (keys (r.refine (text "+proj=longlat +datum=WGS84") 4326)).Nodup :=
  ⟨{ order := [text "proj", text "proj"] }, rfl, by decide, by decide⟩

end CrsExport.Refiner
