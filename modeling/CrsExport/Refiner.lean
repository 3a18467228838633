import CrsExport.Definition.Order
import CrsExport.CodeList
import CrsExport.Rules.Document
import CrsExport.Pattern.Replace
/-! Refiners: rules that have been checked and are ready to be applied. A substitution is
known here only as a function from text to text, so nothing depends on how patterns work. -/

namespace CrsExport

structure CodeSubstitution where
  codes : List CodeSpan
  apply : Text → Text

namespace CodeSubstitution

def covers (r : CodeSubstitution) (code : Code) : Bool := r.codes.any (·.contains code)

end CodeSubstitution

inductive RuleError (ε : Type) where
  | pattern (pattern : Text) (fault : ε)
  | codeList (entry : Text)
  deriving DecidableEq, Repr

abbrev PatternCompiler (ε : Type) := Text → Except ε (Text → Text → Text)

structure Refiner where
  order : List Text := []
  additions : Text := []
  unitSubstitutions : List (Text → Text) := []
  codeSubstitutions : List CodeSubstitution := []

namespace Refiner

variable {ε : Type}

def unitSubstitution (compile : PatternCompiler ε) (rule : SubstitutionRule) :
    Except (RuleError ε) (Text → Text) :=
  match compile rule.pattern with
  | .ok substitution => .ok (substitution rule.replacement)
  | .error fault => .error (.pattern rule.pattern fault)

def codeSubstitution (compile : PatternCompiler ε) (rule : CodeSubstitutionRule) :
    Except (RuleError ε) CodeSubstitution :=
  match CodeList.parse rule.codes with
  | .error entry => .error (.codeList entry)
  | .ok codes =>
    match compile rule.pattern with
    | .ok substitution => .ok ⟨codes, substitution rule.replacement⟩
    | .error fault => .error (.pattern rule.pattern fault)

def checkAll {α β : Type} (check : α → Except (RuleError ε) β) :
    List α → Except (RuleError ε) (List β)
  | [] => .ok []
  | a :: rest =>
    match check a with
    | .error e => .error e
    | .ok b => (checkAll check rest).map (b :: ·)

def ofRulesWith (compile : PatternCompiler ε) (rules : RefinementRules) :
    Except (RuleError ε) Refiner :=
  match checkAll (unitSubstitution compile) rules.unitRules with
  | .error e => .error e
  | .ok unitSubstitutions =>
    match checkAll (codeSubstitution compile) rules.codeRules with
    | .error e => .error e
    | .ok codeSubstitutions =>
      .ok { order := rules.order, additions := Text.trim rules.additions,
            unitSubstitutions, codeSubstitutions }

def substitutionsFor (r : Refiner) (code : Code) : Nat :=
  (r.codeSubstitutions.filter (·.covers code)).length

def extend (r : Refiner) (definition : Text) : Text :=
  let ordered := Definition.reorder r.order definition
  if r.additions.isEmpty then ordered else ordered ++ ' ' :: r.additions

def substitute (r : Refiner) (code : Code) (t : Text) : Text :=
  let t := r.unitSubstitutions.foldl (fun t f => f t) t
  (r.codeSubstitutions.filter (·.covers code)).foldl (fun t c => c.apply t) t

def refine (r : Refiner) (definition : Text) (code : Code) : Text :=
  Definition.reorder r.order (r.substitute code (r.extend definition))

def compilePattern : PatternCompiler Pattern.Fault := fun pattern =>
  (Pattern.compile pattern).map fun p replacement t => p.replaceAll replacement t

def ofRules (rules : RefinementRules) : Except (RuleError Pattern.Fault) Refiner :=
  ofRulesWith compilePattern rules

end Refiner
end CrsExport
