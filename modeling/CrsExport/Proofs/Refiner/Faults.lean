import CrsExport.Proofs.CodeList.Grammar
import CrsExport.Proofs.Refiner.Checked
/-! Which rules are accepted, and what is reported of the others. Every rule is judged on its own.
Of several that are wrong the first one counts, all rules for every definition standing before
those for some codes; of a rule that is wrong in both of its parts the list counts. -/

namespace CrsExport

def CodeList.WellFormed (list : Text) : Prop := ∀ entry ∈ entries list, ∃ s, Denotes entry s

namespace Refiner
open CodeList (Denotes WellFormed)

variable {ε α β : Type}

def Compiles (compile : PatternCompiler ε) (pattern : Text) : Prop :=
  ∃ substitution, compile pattern = .ok substitution

def Makes (compile : PatternCompiler ε) (pattern replacement : Text) (f : Text → Text) : Prop :=
  ∃ substitution, compile pattern = .ok substitution ∧ f = substitution replacement

structure Made (compile : PatternCompiler ε) (rule : CodeSubstitutionRule)
    (own : CodeSubstitution) : Prop where
  codes : List.Forall₂ Denotes (CodeList.entries rule.codes) own.codes
  apply : Makes compile rule.pattern rule.replacement own.apply

inductive UnitFault (compile : PatternCompiler ε) (rule : SubstitutionRule) :
    RuleError ε → Prop where
  | pattern {fault} (broken : compile rule.pattern = .error fault) :
      UnitFault compile rule (.pattern rule.pattern fault)

inductive CodeFault (compile : PatternCompiler ε) (rule : CodeSubstitutionRule) :
    RuleError ε → Prop where
  | codeList {front entry back} (split : CodeList.entries rule.codes = front ++ entry :: back)
      (before : ∀ e ∈ front, ∃ s, Denotes e s) (malformed : ∀ s, ¬ Denotes entry s) :
      CodeFault compile rule (.codeList entry)
  | pattern {fault} (listed : WellFormed rule.codes)
      (broken : compile rule.pattern = .error fault) :
      CodeFault compile rule (.pattern rule.pattern fault)

/-- The fault of the first rule that has one. -/
inductive FirstFault (compile : PatternCompiler ε) (rules : RefinementRules) :
    RuleError ε → Prop where
  | unit {front rule back e} (split : rules.unitRules = front ++ rule :: back)
      (before : ∀ r ∈ front, Compiles compile r.pattern) (own : UnitFault compile rule e) :
      FirstFault compile rules e
  | code {front rule back e} (units : ∀ r ∈ rules.unitRules, Compiles compile r.pattern)
      (split : rules.codeRules = front ++ rule :: back)
      (before : ∀ r ∈ front, WellFormed r.codes ∧ Compiles compile r.pattern)
      (own : CodeFault compile rule e) : FirstFault compile rules e

variable {compile : PatternCompiler ε} {rules : RefinementRules} {r : Refiner} {e : RuleError ε}

theorem checkAllRefused {check : α → Except (RuleError ε) β} {as : List α} :
    checkAll check as = .error e ↔ ∃ front a back, as = front ++ a :: back ∧
      (∀ b ∈ front, ∃ passed, check b = .ok passed) ∧ check a = .error e := by
  induction as with
  | nil => simp [checkAll]
  | cons a rest ih =>
    rw [checkAll]
    cases checked : check a with
    | error fault =>
      constructor
      · rintro ⟨⟩
        exact ⟨[], a, rest, rfl, by simp, checked⟩
      · rintro ⟨front, b, back, split, before, broken⟩
        cases front with
        | nil =>
          cases split
          rw [← checked, broken]
        | cons c front =>
          cases split
          obtain ⟨passed, ok⟩ := before a List.mem_cons_self
          cases checked.symm.trans ok
    | ok passed =>
      have later : (checkAll check rest).map (passed :: ·) = .error e ↔
          checkAll check rest = .error e := by
        cases checkAll check rest <;> simp [Except.map]
      simp only [later, ih]
      constructor
      · rintro ⟨front, b, back, rfl, before, broken⟩
        exact ⟨a :: front, b, back, rfl,
          List.forall_mem_cons.mpr ⟨⟨passed, checked⟩, before⟩, broken⟩
      · rintro ⟨front, b, back, split, before, broken⟩
        cases front with
        | nil =>
          cases split
          cases checked.symm.trans broken
        | cons c front =>
          cases split
          exact ⟨front, b, back, rfl, (List.forall_mem_cons.mp before).2, broken⟩

theorem checkAllSucceeds {check : α → Except (RuleError ε) β} {as : List α} :
    (∃ bs, checkAll check as = .ok bs) ↔ ∀ a ∈ as, ∃ b, check a = .ok b := by
  simp only [checkAllEach]
  induction as with
  | nil => simp
  | cons a rest ih => simp [List.forall₂_cons_left_iff, ← ih]

theorem unitSubstitutionIff {rule : SubstitutionRule} {f : Text → Text} :
    unitSubstitution compile rule = .ok f ↔ Makes compile rule.pattern rule.replacement f := by
  unfold unitSubstitution Makes
  cases compile rule.pattern <;> simp [eq_comm]

theorem unitSubstitutionRefused {rule : SubstitutionRule} :
    unitSubstitution compile rule = .error e ↔ UnitFault compile rule e := by
  unfold unitSubstitution
  constructor
  · intro h
    split at h
    · cases h
    · rename_i fault broken
      cases h
      exact .pattern broken
  · rintro ⟨broken⟩
    rw [broken]

theorem wellFormedParses {list : Text} :
    (∃ spans, CodeList.parse list = .ok spans) ↔ WellFormed list := CodeList.readEntriesSucceed

theorem codeSubstitutionIff {rule : CodeSubstitutionRule} {own : CodeSubstitution} :
    codeSubstitution compile rule = .ok own ↔ Made compile rule own := by
  unfold codeSubstitution
  constructor
  · intro h
    split at h
    · cases h
    · rename_i codes parsed
      split at h
      · rename_i substitution compiled
        cases h
        exact ⟨CodeList.readEntriesEach.mp parsed, substitution, compiled, rfl⟩
      · cases h
  · rintro ⟨codes, substitution, compiled, apply⟩
    have parsed : CodeList.parse rule.codes = .ok own.codes := CodeList.readEntriesEach.mpr codes
    simp only [parsed, compiled, ← apply]

theorem codeSubstitutionRefused {rule : CodeSubstitutionRule} :
    codeSubstitution compile rule = .error e ↔ CodeFault compile rule e := by
  unfold codeSubstitution
  constructor
  · intro h
    split at h
    · rename_i entry refused
      cases h
      obtain ⟨front, back, split, before, malformed⟩ := CodeList.readEntriesRefused.mp refused
      exact .codeList split before malformed
    · rename_i codes parsed
      split at h
      · cases h
      · rename_i fault broken
        cases h
        exact .pattern (wellFormedParses.mp ⟨codes, parsed⟩) broken
  · intro h
    cases h with
    | codeList split before malformed =>
      have refused : CodeList.parse rule.codes = .error _ :=
        CodeList.readEntriesRefused.mpr ⟨_, _, split, before, malformed⟩
      rw [refused]
    | pattern listed broken =>
      obtain ⟨codes, parsed⟩ := wellFormedParses.mpr listed
      simp only [parsed, broken]

theorem unitPasses {rule : SubstitutionRule} :
    (∃ f, unitSubstitution compile rule = .ok f) ↔ Compiles compile rule.pattern := by
  simp only [unitSubstitutionIff, Makes, Compiles]
  exact ⟨fun ⟨_, substitution, compiled, _⟩ => ⟨substitution, compiled⟩,
    fun ⟨substitution, compiled⟩ => ⟨_, substitution, compiled, rfl⟩⟩

theorem codePasses {rule : CodeSubstitutionRule} :
    (∃ own, codeSubstitution compile rule = .ok own) ↔
      WellFormed rule.codes ∧ Compiles compile rule.pattern := by
  simp only [codeSubstitutionIff, ← wellFormedParses]
  constructor
  · rintro ⟨own, codes, substitution, compiled, _⟩
    exact ⟨⟨_, CodeList.readEntriesEach.mpr codes⟩, substitution, compiled⟩
  · rintro ⟨⟨spans, parsed⟩, substitution, compiled⟩
    exact ⟨⟨spans, _⟩, CodeList.readEntriesEach.mp parsed, substitution, compiled, rfl⟩

theorem unitsMade {unitRules : List SubstitutionRule} {fs : List (Text → Text)} :
    checkAll (unitSubstitution compile) unitRules = .ok fs ↔
      List.Forall₂ (fun rule f => Makes compile rule.pattern rule.replacement f) unitRules fs := by
  simp only [checkAllEach, unitSubstitutionIff]

theorem codesMade {codeRules : List CodeSubstitutionRule} {owns : List CodeSubstitution} :
    checkAll (codeSubstitution compile) codeRules = .ok owns ↔
      List.Forall₂ (Made compile) codeRules owns := by
  simp only [checkAllEach, codeSubstitutionIff]

theorem ofRulesIff : ofRulesWith compile rules = .ok r ↔
    r.order = rules.order ∧ r.additions = Text.trim rules.additions ∧
      List.Forall₂ (fun rule f => Makes compile rule.pattern rule.replacement f)
        rules.unitRules r.unitSubstitutions ∧
      List.Forall₂ (Made compile) rules.codeRules r.codeSubstitutions := by
  rw [← unitsMade, ← codesMade]
  constructor
  · intro accepted
    obtain ⟨order, additions, units, codes⟩ := ofRulesChecked accepted
    exact ⟨order, additions, units, codes⟩
  · rintro ⟨order, additions, units, codes⟩
    exact checkedAccepted ⟨order, additions, units, codes⟩

theorem ofRulesSucceeds : (∃ r, ofRulesWith compile rules = .ok r) ↔
    (∀ rule ∈ rules.unitRules, Compiles compile rule.pattern) ∧
      ∀ rule ∈ rules.codeRules, WellFormed rule.codes ∧ Compiles compile rule.pattern := by
  simp only [← unitPasses, ← codePasses, ← checkAllSucceeds]
  constructor
  · rintro ⟨r, accepted⟩
    have checked := ofRulesChecked accepted
    exact ⟨⟨_, checked.units⟩, _, checked.codes⟩
  · rintro ⟨⟨units, passed⟩, codes, listed⟩
    let r : Refiner :=
      { order := rules.order, additions := Text.trim rules.additions
        unitSubstitutions := units, codeSubstitutions := codes }
    exact ⟨r, checkedAccepted ⟨rfl, rfl, passed, listed⟩⟩

theorem ofRulesRefused : ofRulesWith compile rules = .error e ↔ FirstFault compile rules e := by
  unfold ofRulesWith
  constructor
  · intro h
    split at h
    · rename_i fault refused
      cases h
      obtain ⟨front, rule, back, split, before, own⟩ := checkAllRefused.mp refused
      exact .unit split (fun r hr => unitPasses.mp (before r hr)) (unitSubstitutionRefused.mp own)
    · rename_i units passed
      split at h
      · rename_i fault refused
        cases h
        obtain ⟨front, rule, back, split, before, own⟩ := checkAllRefused.mp refused
        refine .code (fun r hr => ?_) split (fun r hr => codePasses.mp (before r hr))
          (codeSubstitutionRefused.mp own)
        exact unitPasses.mp (checkAllSucceeds.mp ⟨units, passed⟩ r hr)
      · cases h
  · intro h
    cases h with
    | unit split before own =>
      have refused : checkAll (unitSubstitution compile) rules.unitRules = .error e :=
        checkAllRefused.mpr ⟨_, _, _, split, fun r hr => unitPasses.mpr (before r hr),
          unitSubstitutionRefused.mpr own⟩
      rw [refused]
    | code units split before own =>
      obtain ⟨passed, checked⟩ :=
        checkAllSucceeds.mpr fun r hr => unitPasses.mpr (units r hr)
      have refused : checkAll (codeSubstitution compile) rules.codeRules = .error e :=
        checkAllRefused.mpr ⟨_, _, _, split, fun r hr => codePasses.mpr (before r hr),
          codeSubstitutionRefused.mpr own⟩
      simp only [checked, refused]

theorem acceptedUnlessFaulty (compile : PatternCompiler ε) (rules : RefinementRules) :
    ((∃ r, ofRulesWith compile rules = .ok r) ↔
      (∀ rule ∈ rules.unitRules, Compiles compile rule.pattern) ∧
        ∀ rule ∈ rules.codeRules, WellFormed rule.codes ∧ Compiles compile rule.pattern) ∧
    (∀ r, ofRulesWith compile rules = .ok r ↔
      r.order = rules.order ∧ r.additions = Text.trim rules.additions ∧
        List.Forall₂ (fun rule f => Makes compile rule.pattern rule.replacement f)
          rules.unitRules r.unitSubstitutions ∧
        List.Forall₂ (Made compile) rules.codeRules r.codeSubstitutions) ∧
    ∀ e, ofRulesWith compile rules = .error e ↔ FirstFault compile rules e :=
  ⟨ofRulesSucceeds, fun _ => ofRulesIff, fun _ => ofRulesRefused⟩

/- The first rule of each kind is good, and every later one has at least one fault. -/
def faultyUnits : List SubstitutionRule :=
  [⟨text "m", text "ft"⟩, ⟨text "(m", []⟩, ⟨text "[", []⟩]

def faultyCodes : List CodeSubstitutionRule :=
  [⟨text "m", text "ft", text "1-5,,7"⟩, ⟨text "(m", [], text "8, 9-2 ,abc"⟩,
    ⟨text "[", [], text "9"⟩]

theorem firstFaultReported :
    (∃ fault, ofRules { unitRules := faultyUnits, codeRules := faultyCodes } =
      .error (.pattern (text "(m") fault)) ∧
    ofRules { codeRules := faultyCodes } = .error (.codeList (text "9-2")) ∧
    ∃ r, ofRules { unitRules := faultyUnits.take 1, codeRules := faultyCodes.take 1 } = .ok r := by
  have good : Compiles compilePattern (text "m") := okIff.mp (by decide +kernel)
  obtain ⟨fault, broken⟩ : ∃ fault, compilePattern (text "(m") = .error fault :=
    refusedIff.mp (by decide +kernel)
  have listed : WellFormed (text "1-5,,7") := wellFormedParses.mp (okIff.mp (by decide +kernel))
  have entries : CodeList.entries (text "8, 9-2 ,abc") =
      [text "8"] ++ text "9-2" :: [text "abc"] := by decide +kernel
  have eight : Denotes (text "8") ⟨8, 8⟩ := CodeList.readEntryIff.mp (by decide +kernel)
  have turned : ∀ s, ¬ Denotes (text "9-2") s := CodeList.readEntryNone.mp (by decide +kernel)
  have units : faultyUnits = faultyUnits.take 1 ++ ⟨text "(m", []⟩ :: [⟨text "[", []⟩] := rfl
  have codes : faultyCodes = faultyCodes.take 1 ++
      ⟨text "(m", [], text "8, 9-2 ,abc"⟩ :: [⟨text "[", [], text "9"⟩] := rfl
  have before : ∀ rule ∈ faultyUnits.take 1, Compiles compilePattern rule.pattern := by
    simpa [faultyUnits] using good
  have fine : ∀ rule ∈ faultyCodes.take 1,
      WellFormed rule.codes ∧ Compiles compilePattern rule.pattern := by
    simpa [faultyCodes] using ⟨listed, good⟩
  have first := (acceptedUnlessFaulty compilePattern
    { unitRules := faultyUnits, codeRules := faultyCodes }).2.2
  have second := (acceptedUnlessFaulty compilePattern { codeRules := faultyCodes }).2.2
  have third := (acceptedUnlessFaulty compilePattern
    { unitRules := faultyUnits.take 1, codeRules := faultyCodes.take 1 }).1
  refine ⟨⟨fault, (first _).mpr (.unit units before (.pattern broken))⟩,
    (second _).mpr (.code (by simp) codes fine ?_), third.mpr ⟨before, fine⟩⟩
  exact .codeList entries (by simpa using ⟨_, eight⟩) turned

end Refiner
end CrsExport
