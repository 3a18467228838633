import CrsExport.Run
/-! Runs that end well. Every stage has succeeded, each with what the stages before it have
loaded, and what they report stands in the log one after the other. -/

namespace CrsExport

end CrsExport
