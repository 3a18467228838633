import Mathlib.Data.List.Forall2
import CrsExport.Refinement
/-! What accepted rules become. Each rule has been checked on its own and keeps its place; the
order and the additions are taken over as they stand. -/

namespace CrsExport.Refiner

variable {ε α β : Type} {compile : PatternCompiler ε} {rules : RefinementRules} {r : Refiner}

theorem checkAllCons {check : α → Except (RuleError ε) β} {a : α} {rest : List α}
    {bs : List β} : checkAll check (a :: rest) = .ok bs ↔
      ∃ b more, check a = .ok b ∧ checkAll check rest = .ok more ∧ bs = b :: more := by
  rw [checkAll]
  cases check a with
  | error e => simp
  | ok b =>
    cases checkAll check rest with
    | error e => simp [Except.map]
    | ok more => simp [Except.map, eq_comm]

theorem checkAllEach {check : α → Except (RuleError ε) β} {as : List α} {bs : List β} :
    checkAll check as = .ok bs ↔ List.Forall₂ (fun a b => check a = .ok b) as bs := by
  induction as generalizing bs with
  | nil => simp [checkAll, eq_comm]
  | cons a rest ih =>
    rw [checkAllCons, List.forall₂_cons_left_iff]
    simp only [ih]

theorem checkAllAppend {check : α → Except (RuleError ε) β} {front back : List α} {bs : List β} :
    checkAll check (front ++ back) = .ok bs ↔ ∃ before behind,
      checkAll check front = .ok before ∧ checkAll check back = .ok behind ∧
        bs = before ++ behind := by
  induction front generalizing bs with
  | nil => simp [checkAll, eq_comm]
  | cons a rest ih =>
    simp only [List.cons_append, checkAllCons, ih]
    constructor
    · rintro ⟨b, _, passed, ⟨before, behind, first, second, rfl⟩, rfl⟩
      exact ⟨_, behind, ⟨b, before, passed, first, rfl⟩, second, rfl⟩
    · rintro ⟨_, behind, ⟨b, before, passed, first, rfl⟩, second, rfl⟩
      exact ⟨b, _, passed, ⟨before, behind, first, second, rfl⟩, rfl⟩

structure Checked (compile : PatternCompiler ε) (rules : RefinementRules) (r : Refiner) :
    Prop where
  order : r.order = rules.order
  additions : r.additions = Text.trim rules.additions
  units : checkAll (unitSubstitution compile) rules.unitRules = .ok r.unitSubstitutions
  codes : checkAll (codeSubstitution compile) rules.codeRules = .ok r.codeSubstitutions

theorem ofRulesChecked (h : ofRulesWith compile rules = .ok r) : Checked compile rules r := by
  unfold ofRulesWith at h
  split at h
  · cases h
  · rename_i units passed
    split at h
    · cases h
    · rename_i codes listed
      cases h
      exact ⟨rfl, rfl, passed, listed⟩

theorem checkedAccepted (h : Checked compile rules r) : ofRulesWith compile rules = .ok r := by
  obtain ⟨order, additions, units, codes⟩ := h
  simp only [ofRulesWith, units, codes, ← order, ← additions]

theorem okIff {x : Except ε α} : x.isOk = true ↔ ∃ a, x = .ok a := by
  cases x <;> simp [Except.isOk, Except.toBool]

theorem refusedIff {x : Except ε α} : x.isOk = false ↔ ∃ e, x = .error e := by
  cases x <;> simp [Except.isOk, Except.toBool]

/- What is found out with a refiner made of rules says that they have been accepted. -/
theorem ofRulesMade {use : Refiner → α} {a : α}
    (h : (ofRules rules).toOption.map use = some a) : ∃ r, ofRules rules = .ok r ∧ use r = a := by
  cases made : ofRules rules with
  | error e =>
    rw [made] at h
    cases h
  | ok r =>
    rw [made] at h
    exact ⟨r, rfl, Option.some.inj h⟩

theorem loadChecked (h : load rules = .ok r) : Checked compilePattern rules r := by
  unfold load ofRules at h
  cases made : ofRulesWith compilePattern rules with
  | error e =>
    rw [made] at h
    cases h
  | ok refiner =>
    rw [made] at h
    cases h
    exact ofRulesChecked made

theorem documentChecked {document : Text} (h : loadDocument document = .ok r) :
    ∃ rules, Rules.parse document = .ok rules ∧ Checked compilePattern rules r := by
  unfold loadDocument at h
  split at h
  · cases h
  · rename_i rules read
    exact ⟨rules, read, loadChecked h⟩

end CrsExport.Refiner
