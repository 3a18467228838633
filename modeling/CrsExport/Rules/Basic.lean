import CrsExport.Text.Blank
/-! Refinement rules as a rules document gives them. -/

namespace CrsExport

structure SubstitutionRule where
  pattern : Text
  replacement : Text
  deriving DecidableEq, Repr

structure CodeSubstitutionRule where
  pattern : Text
  replacement : Text
  codes : Text
  deriving DecidableEq, Repr

structure RefinementRules where
  order : List Text := []
  additions : Text := []
  unitRules : List SubstitutionRule := []
  codeRules : List CodeSubstitutionRule := []
  deriving DecidableEq, Repr

end CrsExport
