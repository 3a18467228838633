import CrsExport.Export.Range
import CrsExport.File
/-! What can go wrong with an export. -/

namespace CrsExport

inductive ExportError where
  | invalidRange (start stop : Code)
  | createOutput (path : Text) (fault : FileFault)
  | csv (fault : FileFault)
  | file (fault : FileFault)
  deriving DecidableEq, Repr

namespace ExportError

def source? : ExportError → Option Text
  | invalidRange .. => none
  | createOutput _ fault | csv fault | file fault => some fault.message

def message : ExportError → Text
  | invalidRange start stop =>
    text "Invalid code range " ++ CodeRange.describe start stop ++
      text ": start must be >= 1 and end must be greater than start"
  | createOutput path fault =>
    text "Failed to create output file " ++ path ++ text ": " ++ fault.message
  | csv fault => text "CSV error: " ++ fault.message
  | file fault => text "I/O error: " ++ fault.message

end ExportError

def CodeRange.ofBounds (start stop : Code) : Except ExportError CodeRange :=
  match ofBounds? start stop with
  | some r => .ok r
  | none => .error (.invalidRange start stop)

end CrsExport
