import CrsExport.Proofs.Export.Counts
import CrsExport.Proofs.Export.ReadBack
import CrsExport.Proofs.Export.Rows
import CrsExport.Proofs.InitFile.Record
/-! Exports of init files. What becomes of a code can be read off the text of the file: the last
entry for the code decides, whatever the entries before it say. -/

namespace CrsExport

namespace InitFile

variable {contents d : Text} {range : CodeRange} {code : Code}

end InitFile
end CrsExport
