import CrsExport.Proofs.CodeList.Spans
import CrsExport.Proofs.Export.Refined
import CrsExport.Proofs.Refiner.Checked
/-! The scope of substitutions for some codes. For one code, the rules that list it are checked
and applied as if they were rules for every definition, and the others might as well not be
there. -/

namespace CrsExport

namespace CodeSubstitutionRule

/-- Whether a code is in the list of a rule. Both ends of a range are, and nothing is in a list
that cannot be read. -/
def lists (rule : CodeSubstitutionRule) (c : Code) : Bool :=
  match CodeList.parse rule.codes with
  | .ok spans => spans.any fun s => s.first ≤ c ∧ c ≤ s.last
  | .error _ => false

def substitution (rule : CodeSubstitutionRule) : SubstitutionRule :=
  ⟨rule.pattern, rule.replacement⟩

end CodeSubstitutionRule

def RefinementRules.substitutionsFor (rules : RefinementRules) (c : Code) :
    List SubstitutionRule :=
  (rules.codeRules.filter (·.lists c)).map (·.substitution)

/-- Lists of rules made from each other by changes to rules that do not list a code. A rule is
edited or moved by taking it out and putting it in again. -/
inductive Elsewhere (c : Code) :
    List CodeSubstitutionRule → List CodeSubstitutionRule → Prop where
  | same (rules : List CodeSubstitutionRule) : Elsewhere c rules rules
  | inserted {rules front back rule} (before : Elsewhere c rules (front ++ back))
      (other : rule.lists c = false) : Elsewhere c rules (front ++ rule :: back)
  | deleted {rules front back rule} (before : Elsewhere c rules (front ++ rule :: back))
      (other : rule.lists c = false) : Elsewhere c rules (front ++ back)

theorem elsewhereLists {c : Code} {rules rules' : List CodeSubstitutionRule}
    (h : Elsewhere c rules rules') : rules.filter (·.lists c) = rules'.filter (·.lists c) := by
  have passedOver : ∀ {front back : List CodeSubstitutionRule} {rule : CodeSubstitutionRule},
      rule.lists c = false →
        (front ++ rule :: back).filter (·.lists c) = (front ++ back).filter (·.lists c) := by
    intro front back rule other
    rw [List.filter_append, List.filter_cons_of_neg (by simp [other]), List.filter_append]
  induction h with
  | same => rfl
  | inserted before other ih => rw [ih, passedOver other]
  | deleted before other ih => rw [ih, passedOver other]

namespace Refiner

variable {ε : Type} {compile : PatternCompiler ε} {rule : CodeSubstitutionRule}
  {s : CodeSubstitution} {rules rules' : RefinementRules} {r r' : Refiner} {c : Code}

theorem codeSubstitutionPassed (h : codeSubstitution compile rule = .ok s) :
    CodeList.parse rule.codes = .ok s.codes ∧
      unitSubstitution compile rule.substitution = .ok s.apply := by
  unfold codeSubstitution at h
  split at h
  · cases h
  · rename_i codes parsed
    split at h
    · rename_i substitution compiled
      cases h
      refine ⟨parsed, ?_⟩
      simp only [unitSubstitution, CodeSubstitutionRule.substitution, compiled]
    · cases h

theorem passedCovers (h : codeSubstitution compile rule = .ok s) (c : Code) :
    s.covers c = rule.lists c := by
  simp only [CodeSubstitutionRule.lists, (codeSubstitutionPassed h).1, CodeSubstitution.covers,
    CodeSpan.contains, Bool.decide_and]

/- The ends of a span belong to it, so the lists of accepted rules reach both of them. -/
theorem listedEnds {codeRules : List CodeSubstitutionRule} {passed : List CodeSubstitution}
    (h : checkAll (codeSubstitution compile) codeRules = .ok passed) :
    ∀ rule ∈ codeRules, ∃ spans, CodeList.parse rule.codes = .ok spans ∧
      ∀ s ∈ spans, rule.lists s.first ∧ rule.lists s.last := by
  rw [checkAllEach] at h
  induction h with
  | nil => simp
  | cons head _ ih =>
    refine List.forall_mem_cons.mpr ⟨?_, ih⟩
    have parsed := (codeSubstitutionPassed head).1
    refine ⟨_, parsed, fun s mem => ?_⟩
    have ordered := CodeList.parsedOrdered parsed s mem
    simp only [CodeSubstitutionRule.lists, parsed, List.any_eq_true, decide_eq_true_eq]
    exact ⟨⟨s, mem, UInt32.le_refl _, ordered⟩, ⟨s, mem, ordered, UInt32.le_refl _⟩⟩

/- Checking the rules of a list and picking some of them out can be done in either order. -/
theorem checkAllScope {codeRules : List CodeSubstitutionRule} {passed : List CodeSubstitution}
    (h : checkAll (codeSubstitution compile) codeRules = .ok passed) (c : Code) :
    checkAll (unitSubstitution compile)
        ((codeRules.filter (·.lists c)).map (·.substitution)) =
      .ok ((passed.filter (·.covers c)).map (·.apply)) := by
  rw [checkAllEach] at h ⊢
  induction h with
  | nil => exact .nil
  | @cons rule s rest more head _ ih =>
    have covers := passedCovers head c
    cases listed : rule.lists c with
    | false =>
      simp only [List.filter_cons, covers, listed, Bool.false_eq_true, if_false]
      exact ih
    | true =>
      simp only [List.filter_cons, covers, listed, if_true, List.map_cons]
      exact .cons (codeSubstitutionPassed head).2 ih

theorem substitutionsCounted (h : Checked compile rules r) (c : Code) :
    r.substitutionsFor c = (rules.substitutionsFor c).length := by
  have length := (checkAllEach.mp (checkAllScope h.codes c)).length_eq
  exact (length.trans (List.length_map _)).symm

/- The substitutions for a code in one list, the ones for every definition first. -/
theorem substituteFolds (r : Refiner) (c : Code) (t : Text) :
    r.substitute c t =
      (r.unitSubstitutions ++ (r.codeSubstitutions.filter (·.covers c)).map (·.apply)).foldl
        (fun t f => f t) t := by
  rw [substitute, List.foldl_append, List.foldl_map]

theorem refineScope (h : Checked compile rules r) (h' : Checked compile rules' r')
    (order : rules.order = rules'.order) (additions : rules.additions = rules'.additions)
    (units : rules.unitRules = rules'.unitRules)
    (scope : rules.substitutionsFor c = rules'.substitutionsFor c) (d : Text) :
    r.refine d c = r'.refine d c := by
  have sameOrder : r.order = r'.order := by rw [h.order, h'.order, order]
  have sameAdditions : r.additions = r'.additions := by rw [h.additions, h'.additions, additions]
  have sameUnits : r.unitSubstitutions = r'.unitSubstitutions := by
    have passed := h.units
    rw [units, h'.units] at passed
    exact (Except.ok.inj passed).symm
  have sameCodes : (r.codeSubstitutions.filter (·.covers c)).map (·.apply) =
      (r'.codeSubstitutions.filter (·.covers c)).map (·.apply) := by
    have passed := checkAllScope h.codes c
    have passed' := checkAllScope h'.codes c
    have scope : (rules.codeRules.filter (·.lists c)).map (·.substitution) =
        (rules'.codeRules.filter (·.lists c)).map (·.substitution) := scope
    rw [scope, passed'] at passed
    exact (Except.ok.inj passed).symm
  unfold refine extend
  rw [substituteFolds, substituteFolds, sameOrder, sameAdditions, sameUnits, sameCodes]

theorem recordAgrees (resolver : Resolver)
    (same : ∀ definition, r.refine definition c = r'.refine definition c) :
    (Exporter.mk resolver (some r)).record c = (Exporter.mk resolver (some r')).record c := by
  rw [Exporter.recordRefines, Exporter.recordRefines]
  simp only [same]

theorem eventsAgree (resolver : Resolver) (same : r.substitutionsFor c = r'.substitutionsFor c) :
    (Exporter.mk resolver (some r)).substitutionEvents c =
      (Exporter.mk resolver (some r')).substitutionEvents c := by
  have substitutions : (Exporter.mk resolver (some r)).substitutions c =
      (Exporter.mk resolver (some r')).substitutions c := by
    unfold Exporter.substitutions
    cases (resolver.resolve c).bind resolver.toProjString with
    | error e => rfl
    | ok definition => exact same
  rw [Exporter.substitutionEvents, Exporter.substitutionEvents, substitutions]

/- Two sets of rules which say the same about one code, as they do when what makes them
different is said about other codes only. -/
theorem codeRulesStayInScope (accepted : ofRulesWith compile rules = .ok r)
    (accepted' : ofRulesWith compile rules' = .ok r')
    (order : rules.order = rules'.order) (additions : rules.additions = rules'.additions)
    (units : rules.unitRules = rules'.unitRules)
    (scope : rules.substitutionsFor c = rules'.substitutionsFor c ∨
      Elsewhere c rules.codeRules rules'.codeRules) :
    (∀ definition, r.refine definition c = r'.refine definition c) ∧
    r.substitutionsFor c = (rules.codeRules.filter (·.lists c)).length ∧
    r'.substitutionsFor c = (rules.codeRules.filter (·.lists c)).length ∧
    (∀ resolver : Resolver,
      let x : Exporter := { resolver, refiner := some r }
      let x' : Exporter := { resolver, refiner := some r' }
      x.record c = x'.record c ∧
      x.substitutionEvents c = x'.substitutionEvents c ∧
      ∀ range : CodeRange, (Export.rows x range).filter (·.code == c) =
        (Export.rows x' range).filter (·.code == c)) ∧
    ∀ rule ∈ rules.codeRules ++ rules'.codeRules,
      ∃ spans, CodeList.parse rule.codes = .ok spans ∧
        ∀ s ∈ spans, rule.lists s.first ∧ rule.lists s.last := by
  have checked := ofRulesChecked accepted
  have checked' := ofRulesChecked accepted'
  have scope : rules.substitutionsFor c = rules'.substitutionsFor c := by
    cases scope with
    | inl same => exact same
    | inr elsewhere =>
      exact congrArg (List.map (·.substitution)) (elsewhereLists elsewhere)
  have refined : ∀ definition, r.refine definition c = r'.refine definition c :=
    refineScope checked checked' order additions units scope
  have listing : (rules.substitutionsFor c).length = (rules.codeRules.filter (·.lists c)).length :=
    List.length_map _
  have counted := (substitutionsCounted checked c).trans listing
  have counted' : r'.substitutionsFor c = (rules.codeRules.filter (·.lists c)).length := by
    rw [substitutionsCounted checked' c, ← scope, listing]
  refine ⟨refined, counted, counted', fun resolver => ?_, ?_⟩
  · intro x x'
    have record : x.record c = x'.record c := recordAgrees resolver refined
    refine ⟨record, eventsAgree resolver (counted.trans counted'.symm), fun range => ?_⟩
    rw [Export.rowsOfCode, Export.rowsOfCode, record]
  · intro rule mem
    cases List.mem_append.mp mem with
    | inl first => exact listedEnds checked.codes rule first
    | inr second => exact listedEnds checked'.codes rule second

/- Neighbours, with the codes of one ending right before those of the other. -/
def northern : CodeSubstitutionRule := ⟨text "lat", text "lon", text "10-20"⟩

def southern : CodeSubstitutionRule := ⟨text "lat", text "utm", text "21-40"⟩

theorem southernStaysSouth :
    let definition := text "+proj=lat"
    ∃ r r', ofRules { codeRules := [northern] } = .ok r ∧
      ofRules { codeRules := [southern, northern] } = .ok r' ∧
      r.refine definition 20 = text "+proj=lon" ∧
      r'.refine definition 20 = text "+proj=lon" ∧
      r'.refine definition 21 = text "+proj=utm" ∧
      r.substitutionsFor 20 = 1 ∧ r'.substitutionsFor 20 = 1 := by
  intro definition
  have alone : (ofRules { codeRules := [northern] }).toOption.map (·.refine definition 20) =
      some (text "+proj=lon") := by decide +kernel
  have beside : (ofRules { codeRules := [southern, northern] }).toOption.map
      (·.refine definition 21) = some (text "+proj=utm") := by decide +kernel
  obtain ⟨r, accepted, north⟩ := ofRulesMade alone
  obtain ⟨r', accepted', south⟩ := ofRulesMade beside
  have other : southern.lists 20 = false := by decide +kernel
  have elsewhere : Elsewhere 20 ([] ++ [northern]) ([] ++ southern :: [northern]) :=
    .inserted (.same [northern]) other
  obtain ⟨refined, counted, counted', -, -⟩ :=
    codeRulesStayInScope accepted accepted' rfl rfl rfl (.inr elsewhere)
  have one : ([northern].filter (·.lists 20)).length = 1 := by decide +kernel
  exact ⟨r, r', accepted, accepted', north, (refined definition).symm.trans north, south,
    counted.trans one, counted'.trans one⟩

end Refiner
end CrsExport
