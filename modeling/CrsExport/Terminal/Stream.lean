import CrsExport.Environment.Basic
import CrsExport.Terminal.Strip
/-! What goes to a stream that is not a terminal: the text alone, unless the environment asks
for effects. -/

namespace CrsExport.Terminal

def forceVariable : Text := text "CLICOLOR_FORCE"

def refusalVariable : Text := text "NO_COLOR"

def variableNames : List Text := [forceVariable, refusalVariable]

def isGiven (env : Environment) (name : Text) : Bool := (env.get? name).any (!·.isEmpty)

def keepsEffects (env : Environment) : Bool :=
  isGiven env forceVariable && !isGiven env refusalVariable

def output (keeps : Bool) (t : Text) : Text := if keeps then t else strip .pauses t

end CrsExport.Terminal
