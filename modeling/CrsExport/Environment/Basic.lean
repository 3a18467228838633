import CrsExport.Text.Blank
/-! Environment variables. -/

namespace CrsExport

abbrev Environment := List (Text × Text)

namespace Environment

def get? (env : Environment) (name : Text) : Option Text := env.lookup name

def setNew (env : Environment) (name value : Text) : Environment :=
  if (env.get? name).isSome then env else env ++ [(name, value)]

end Environment
end CrsExport
