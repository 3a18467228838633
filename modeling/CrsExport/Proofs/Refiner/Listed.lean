import CrsExport.Proofs.CodeList.Spelling
import CrsExport.Proofs.Refiner.Checked
/-! Rules for the codes of a list. Such a rule does something for the codes that lie in a span of
its list and nothing for the others; it does it once, however many of the spans a code lies in. -/

namespace CrsExport

def CodeSpan.Within (spans : List CodeSpan) (c : Code) : Prop :=
  ∃ s ∈ spans, s.first ≤ c ∧ c ≤ s.last

instance (spans : List CodeSpan) (c : Code) : Decidable (CodeSpan.Within spans c) :=
  inferInstanceAs (Decidable (∃ s ∈ spans, s.first ≤ c ∧ c ≤ s.last))

namespace Refiner
open CodeList (Spelled listText)
open CodeSpan (Within)

variable {ε : Type} {compile : PatternCompiler ε} {rules : RefinementRules} {r r' : Refiner}
  {front back : List CodeSubstitutionRule} {before behind : List CodeSubstitution}
  {own : CodeSubstitution} {pattern replacement list : Text} {spans : List CodeSpan}
  {f : Text → Text → Text} {c : Code}

theorem coversWithin : own.covers c = true ↔ Within own.codes c := by
  simp [CodeSubstitution.covers, CodeSpan.contains, Within]

theorem insertedFilter (own : CodeSubstitution) (c : Code) :
    (before ++ own :: behind).filter (·.covers c) = before.filter (·.covers c) ++
      ((if Within own.codes c then [own] else []) ++ behind.filter (·.covers c)) := by
  simp only [List.filter_append, List.filter_cons, coversWithin]
  split <;> rfl

theorem insertedCount (r : Refiner) (own : CodeSubstitution) (c : Code) :
    ({ r with codeSubstitutions := before ++ own :: behind } : Refiner).substitutionsFor c =
      ({ r with codeSubstitutions := before ++ behind } : Refiner).substitutionsFor c +
        if Within own.codes c then 1 else 0 := by
  rw [substitutionsFor, insertedFilter, substitutionsFor, List.filter_append]
  simp only [List.length_append]
  split
  · simp only [List.length_singleton]
    omega
  · simp

/- The rules before a rule are applied first, and the ones behind it to what it leaves. -/
theorem insertedSubstitute (r : Refiner) (own : CodeSubstitution) (c : Code) (t : Text) :
    ({ r with codeSubstitutions := before ++ own :: behind } : Refiner).substitute c t =
      let found := ({ r with codeSubstitutions := before } : Refiner).substitute c t
      (behind.filter (·.covers c)).foldl (fun t s => s.apply t)
        (if Within own.codes c then own.apply found else found) := by
  simp only [substitute, insertedFilter, List.foldl_append]
  split <;> rfl

theorem insertedAccepted (parsed : CodeList.parse list = .ok spans)
    (compiled : compile pattern = .ok f)
    (others : ofRulesWith compile { rules with codeRules := front ++ back } = .ok r') :
    ∃ before behind, before.length = front.length ∧ r'.codeSubstitutions = before ++ behind ∧
      ofRulesWith compile
          { rules with codeRules := front ++ ⟨pattern, replacement, list⟩ :: back } =
        .ok { r' with codeSubstitutions := before ++ ⟨spans, f replacement⟩ :: behind } := by
  have checked := ofRulesChecked others
  obtain ⟨before, behind, first, second, split⟩ := checkAllAppend.mp checked.codes
  have own : codeSubstitution compile ⟨pattern, replacement, list⟩ =
      .ok ⟨spans, f replacement⟩ := by
    simp only [codeSubstitution, parsed, compiled]
  have length := (checkAllEach.mp first).length_eq
  refine ⟨before, behind, length.symm, split, checkedAccepted ⟨checked.order, checked.additions,
    checked.units, checkAllAppend.mpr ⟨before, _, first, ?_, rfl⟩⟩⟩
  exact checkAllCons.mpr ⟨_, behind, own, second, rfl⟩

/- The rule is put in among others that are accepted without it. -/
theorem spelledRuleCountsOnce (spelled : Spelled list spans) (compiled : compile pattern = .ok f)
    (others : ofRulesWith compile { rules with codeRules := front ++ back } = .ok r') :
    (∀ plain : List CodeSpan, (∀ s ∈ plain, s.first ≤ s.last) → Spelled (listText plain) plain) ∧
    CodeList.parse list = .ok spans ∧
    ∃ before behind, before.length = front.length ∧ r'.codeSubstitutions = before ++ behind ∧
      let own : CodeSubstitution := ⟨spans, f replacement⟩
      let r : Refiner := { r' with codeSubstitutions := before ++ own :: behind }
      ofRulesWith compile
          { rules with codeRules := front ++ ⟨pattern, replacement, list⟩ :: back } = .ok r ∧
        ∀ c, (own.covers c = true ↔ Within spans c) ∧
          r.substitutionsFor c = r'.substitutionsFor c + (if Within spans c then 1 else 0) ∧
          ∀ t, r.substitute c t =
            let found := ({ r' with codeSubstitutions := before } : Refiner).substitute c t
            (behind.filter (·.covers c)).foldl (fun t s => s.apply t)
              (if Within spans c then f replacement found else found) := by
  have parsed := CodeList.spelledParses spelled
  obtain ⟨before, behind, length, split, accepted⟩ := insertedAccepted parsed compiled others
  refine ⟨fun _ => CodeList.listTextSpelled, parsed, before, behind, length, split, accepted,
    fun c => ⟨coversWithin, ?_, fun t => insertedSubstitute r' _ c t⟩⟩
  have same : r' = { r' with codeSubstitutions := before ++ behind } := by rw [← split]
  have counted := @insertedCount before behind r' ⟨spans, f replacement⟩ c
  rwa [← same] at counted

/- Code 5 lies in all three of the spans, and code 2 in none. The rule behind has a list that ends
with a comma. -/
def overlapping : List CodeSpan := [⟨3, 7⟩, ⟨5, 4294967295⟩, ⟨5, 5⟩]

def overlappingText : Text := text " +3 -\t007 ,, 5-4294967295,\u30005,"

def doubling : CodeSubstitutionRule := ⟨text "a", text "aa", overlappingText⟩

def shortening : CodeSubstitutionRule := ⟨text "aa", text "b", text "5,"⟩

theorem overlappingCountsOnce :
    Spelled overlappingText overlapping ∧
      CodeList.parse overlappingText = .ok overlapping ∧
      ∃ r, ofRules { codeRules := [doubling, shortening] } = .ok r ∧
        r.substitutionsFor 5 = 2 ∧ r.substitutionsFor 4294967295 = 1 ∧
        r.substitutionsFor 2 = 0 := by
  have numeral : ∀ {t : Text} {c : Code}, Code.read t = some c → Text.IsNumeral t c.toNat :=
    Code.readIff.mp
  have spelled : Spelled overlappingText overlapping := by
    have first := @CodeList.Spells.range [' '] (text "+3") [' '] ['\t'] (text "007") [' '] ⟨3, 7⟩
      (by simp [Text.IsPadding, Text.isBlank]) (numeral (by decide)) (numeral (by decide))
      (by decide)
    have second := @CodeList.Spells.range [' '] (text "5") [] [] (text "4294967295") []
      ⟨5, 4294967295⟩ (by simp [Text.IsPadding, Text.isBlank]) (numeral (by decide))
      (numeral (by decide)) (by decide)
    have third := @CodeList.Spells.code ['\u3000'] (text "5") [] 5
      (by simp [Text.IsPadding, Text.isBlank]) Text.paddingNil (numeral (by decide))
    have empty := CodeList.Spells.nothing Text.paddingNil
    exact .comma first (.comma empty (.comma second (.comma third (.last empty))))
  have counts : (ofRules { codeRules := [shortening] }).toOption.map
      (fun r => [r.substitutionsFor 5, r.substitutionsFor 4294967295, r.substitutionsFor 2]) =
        some [1, 0, 0] := by decide +kernel
  obtain ⟨r', others, counted⟩ := ofRulesMade counts
  have compiles : (compilePattern doubling.pattern).toOption.isSome = true := by decide +kernel
  obtain ⟨f, compiled⟩ : ∃ f, compilePattern doubling.pattern = .ok f := by
    cases made : compilePattern doubling.pattern with
    | error e => simp [made, Except.toOption] at compiles
    | ok f => exact ⟨f, rfl⟩
  have inserted := @spelledRuleCountsOnce _ _ { codeRules := [] } _ [] [shortening] _
    doubling.replacement _ _ _ spelled compiled others
  obtain ⟨-, parsed, before, behind, -, -, accepted, listed⟩ := inserted
  simp only [List.cons.injEq, and_true] at counted
  obtain ⟨five, greatest, two⟩ := counted
  refine ⟨spelled, parsed, _, accepted, ?_, ?_, ?_⟩
  · rw [(listed 5).2.1, five]
    decide
  · rw [(listed 4294967295).2.1, greatest]
    decide
  · rw [(listed 2).2.1, two]
    decide

end Refiner
end CrsExport
