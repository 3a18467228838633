import CrsExport.Refiner
import CrsExport.File
/-! Loading refiners from rules documents. -/

namespace CrsExport

inductive RefinementError where
  | read (path : Text) (fault : FileFault)
  | parse (fault : Rules.Fault)
  | pattern (pattern : Text) (fault : Pattern.Fault)
  | codeList (entry : Text)
  deriving DecidableEq, Repr

namespace RefinementError

def ofRule : RuleError Pattern.Fault → RefinementError
  | .pattern p f => pattern p f
  | .codeList e => codeList e

def source? : RefinementError → Option Text
  | read _ fault => some fault.message
  | parse fault => some fault.message
  | pattern p fault => some (fault.report p)
  | codeList _ => none

def message : RefinementError → Text
  | read path fault =>
    text "Failed to read refinements file " ++ path ++ text ": " ++ fault.message
  | parse fault => text "Invalid refinements JSON: " ++ fault.message
  | pattern p fault =>
    text "Invalid refinement regex '" ++ p ++ text "': " ++ fault.report p
  | codeList entry => text "Invalid code list entry '" ++ entry ++ text "'"

end RefinementError

namespace Refiner

def load (rules : RefinementRules) : Except RefinementError Refiner :=
  (ofRules rules).mapError .ofRule

def loadDocument (document : Text) : Except RefinementError Refiner :=
  match Rules.parse document with
  | .error fault => .error (.parse fault)
  | .ok rules => load rules

end Refiner
end CrsExport
