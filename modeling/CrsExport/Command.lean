import CrsExport.CommandLine.Help
import CrsExport.Environment.Document
import CrsExport.Log.Output
import CrsExport.Run
/-! The command: settings are taken from the arguments and the environment, the export is
run, and what came of it is told. -/

namespace CrsExport

structure Ending where
  status : Nat
  answer : Text := []
  events : List Log.Event := []
  log : Option Log.Output := none
  complaint : Text := []
  files : FileStore

namespace Ending

def errorOutput (e : Ending) (times : Log.Times) (stamp : Log.Stamp) : Text :=
  (match e.log with
    | none => []
    | some o => o.warnings ++ o.lines times stamp e.events) ++ e.complaint

end Ending

namespace Command

def variableNames : List Text :=
  Setting.all.map Setting.variableName ++ Log.Output.variableNames

def directories (here : Place) : List Place :=
  (List.range (here.length + 1)).reverse.map here.take

def environmentFileName : Text := text ".env"

def environmentFile? (files : FileStore) : Option (List UInt8) :=
  (directories files.here).findSome? fun place =>
    match files.get? (place ++ [environmentFileName]) with
    | some (.file bytes) => some bytes
    | _ => none

def loadEnvironment (files : FileStore) (env : Environment) : Environment :=
  match environmentFile? files with
  | some file => env.load file
  | none => env

def successMessage (path : Text) : Text :=
  text "CSV file '" ++ path ++ text "' generated successfully.\n"

def failureMessage (e : RunError) : Text := text "epsg_export error: " ++ e.message ++ ['\n']

def usageMessage (e : UsageError) : Text :=
  e.message ++ text "\n\nFor more information, try " ++
    UsageError.literal CommandLine.helpFlag ++ text ".\n"

def exportWith (db : Database) (sink : Sink) (files : FileStore) (env : Environment)
    (config : Config) : Ending :=
  let log := some (Log.Output.ofSettings env config.logLevel config.logFormat)
  match runExport db sink files config with
  | { result := .ok report, events, files } =>
    { status := 0, answer := successMessage report.output, events, log, files }
  | { result := .error e, events, files } =>
    { status := 1, events, log, complaint := failureMessage e, files }

def paths (config : Config) : List Text :=
  config.definitions.toList ++ config.refinements.toList ++ [config.output]

def config? (files : FileStore) (env : Environment) (arguments : List Text) :
    Option Config :=
  match CommandLine.read arguments (loadEnvironment files env) with
  | .ok (.run config) => some config
  | _ => none

def run (db : Database) (sink : Sink) (files : FileStore) (env : Environment)
    (arguments : List Text) : Ending :=
  let env := loadEnvironment files env
  let send := Terminal.output (Terminal.keepsEffects env)
  match CommandLine.read arguments env with
  | .error e => { status := 2, complaint := send (usageMessage e), files }
  | .ok (.help kind) => { status := 0, answer := send (Help.message env kind), files }
  | .ok (.run config) => exportWith db sink files env config

end Command
end CrsExport
