import CrsExport.Code
import CrsExport.Log.Format
/-! The settings of a run. -/

namespace CrsExport

inductive Source where
  | builtin
  | initFile
  deriving DecidableEq, Repr

namespace Source

def label : Source → String
  | builtin => "builtin"
  | initFile => "init-file"

end Source

structure Config where
  output : Text := text "epsg_proj_definitions.csv"
  start : Code := 1
  stop : Code := 1000000
  source : Source := .builtin
  definitions : Option Text := none
  refinements : Option Text := none
  logLevel : Log.Level := .info
  logFormat : Log.Format := .plain
  deriving DecidableEq, Repr

end CrsExport
