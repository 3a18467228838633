import CrsExport.Code
import CrsExport.Skip
/-! What can go wrong on the way from a code to its definition. -/

namespace CrsExport

inductive ResolveError where
  | unknownCode (code : Code)
  | unsupportedDefinition (code : Code) (reason : Text)
  | backend (code : Code) (message : Text)
  deriving DecidableEq, Repr

namespace ResolveError

def code : ResolveError → Code
  | unknownCode c | unsupportedDefinition c _ | backend c _ => c

def skipReason : ResolveError → SkipReason
  | unknownCode _ => .unknownCode
  | unsupportedDefinition _ _ => .unsupportedDefinition
  | backend _ _ => .resolverFailure

def message : ResolveError → Text
  | unknownCode c => text "EPSG:" ++ c.toText ++ text " is not a known code"
  | unsupportedDefinition c reason =>
    text "EPSG:" ++ c.toText ++ text " has no PROJ definition: " ++ reason
  | backend c m => text "Resolver failed for EPSG:" ++ c.toText ++ text ": " ++ m

end ResolveError
end CrsExport
