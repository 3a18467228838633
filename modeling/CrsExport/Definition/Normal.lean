import CrsExport.Resolver.Error
/-! The normal form of a definition: its words with one space between neighbours, of
which one names a projection. -/

namespace CrsExport.Definition

def projKeyword : Text := text "+proj="

def emptyReason : Text := text "empty definition"

def missingReason : Text := text "missing " ++ projKeyword ++ text " parameter"

def normalize (code : Code) (definition : Text) : Except ResolveError Text :=
  let form := Text.ofWords (Text.words definition)
  if form.isEmpty then
    .error (.unsupportedDefinition code emptyReason)
  else if (Text.splitWhen (· == ' ') form).any projKeyword.isPrefixOf then
    .ok form
  else
    .error (.unsupportedDefinition code missingReason)

end CrsExport.Definition
