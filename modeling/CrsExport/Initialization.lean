import CrsExport.Config
import CrsExport.FileStore
import CrsExport.Log.Event
import CrsExport.Refinement
import CrsExport.Resolver.Builtin
import CrsExport.Resolver.InitFile
/-! Setting a run up: loading the definitions and the refinements that the settings name. -/

namespace CrsExport

inductive InitializationError where
  | definitionsFile (path : Text) (fault : FileFault)
  | missingDefinitionsPath
  | refinements (error : RefinementError)
  deriving DecidableEq, Repr

namespace InitializationError

def sources : InitializationError → List Text
  | definitionsFile _ fault => [fault.message]
  | missingDefinitionsPath => []
  | refinements e => e.message :: e.source?.toList

def message : InitializationError → Text
  | definitionsFile path fault =>
    text "Failed to read definitions file " ++ path ++ text ": " ++ fault.message
  | missingDefinitionsPath =>
    text "The init-file source requires a definitions path (--definitions)"
  | refinements e => text "Refinements initialization error: " ++ e.message

end InitializationError

def InitFile.loadEvents (contents : Text) : List Log.Event :=
  (malformedLines contents).map fun l => .malformedLine l.1 l.2

namespace Initialization

def resolver (db : Database) (files : FileStore) (config : Config) :
    List Log.Event × Except InitializationError Resolver :=
  match config.source with
  | .builtin => ([.builtinDatabase], .ok db.resolver)
  | .initFile =>
    match config.definitions with
    | none => ([], .error .missingDefinitionsPath)
    | some path =>
      match files.readText path with
      | .error fault => ([], .error (.definitionsFile path fault))
      | .ok contents =>
        let table := InitFile.parse contents
        (InitFile.loadEvents contents ++
          [.initFileLoaded table.size path, .definitionsLoaded table.size path],
         .ok table.resolver)

def refiner (files : FileStore) (path : Option Text) :
    List Log.Event × Except InitializationError (Option Refiner) :=
  match path with
  | none => ([], .ok none)
  | some path =>
    match files.readText path with
    | .error fault => ([], .error (.refinements (.read path fault)))
    | .ok document =>
      match Refiner.loadDocument document with
      | .error e => ([], .error (.refinements e))
      | .ok r => ([.refinementsLoaded path], .ok (some r))

end Initialization
end CrsExport
