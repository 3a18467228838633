import CrsExport.Command
import CrsExport.Resolver.Excerpt
import Std.Time.DateTime.Timestamp
/-! The command as a program. The files that its settings name are looked at, the command
is run on what was seen, and the file that it wrote is stored. -/

namespace CrsExport.Program

def pathOf (place : Place) : String :=
  String.ofList ('/' :: ['/'].intercalate place)

def look (place : Place) : IO (Option Entry) := do
  try
    return some (.file (← IO.FS.readBinFile (pathOf place)).toList)
  catch
    | .inappropriateType _ 21 _ => return some .directory
    | _ => return none

def lookAll (files : FileStore) (places : List Place) : IO FileStore :=
  places.foldlM (fun files place => do
    match ← look place with
    | some entry => return files.put place entry
    | none => return files) files

def readVariables (names : List Text) : IO Environment :=
  names.foldlM (fun env name => do
    match ← IO.getEnv (String.ofList name) with
    | some value => return env.setNew name (text value)
    | none => return env) []

def now : IO Nat :=
  return (← Std.Time.Timestamp.now).toMillisecondsSinceUnixEpoch.val.toNat

def scanned (events : List Log.Event) : Nat :=
  events.foldl (fun n e =>
    match e with
    | .summary scanned _ => scanned
    | _ => n) 0

def store (files : FileStore) (path : Text) : IO (Option RunError) := do
  match files.read path with
  | .error _ => return none
  | .ok bytes =>
    try
      IO.FS.writeBinFile (String.ofList path) ⟨bytes.toArray⟩
      return none
    catch e => return some (.output path (.createOutput path (.other (text (toString e)))))

def run (arguments : List Text) : IO UInt32 := do
  let start ← now
  let here := ((Text.splitWhen (· == '/') (text (← IO.currentDir).toString))).drop 1
  let files ← lookAll { here } ((Command.directories here).map
    (· ++ [Command.environmentFileName]))
  let env ← readVariables (Command.variableNames ++
    ((Command.environmentFile? files).map Environment.mentions).getD [])
  let config := Command.config? files env arguments
  let files ← lookAll files
    ((config.map Command.paths).getD [] |>.flatMap files.placesOf)
  let ending := Command.run .excerpt .perfect files env arguments
  let fault ← match config, ending.status with
    | some config, 0 => store ending.files config.output
    | _, _ => pure none
  let times := Log.Times.ofMillis ((← now) - start) (scanned ending.events)
  IO.eprint (String.ofList (ending.errorOutput times (.ofMillis start)))
  match fault with
  | some e =>
    IO.eprint (String.ofList (Command.failureMessage e))
    return 1
  | none =>
    IO.print (String.ofList ending.answer)
    return UInt32.ofNat ending.status

end CrsExport.Program

def main (arguments : List String) : IO UInt32 :=
  CrsExport.Program.run (arguments.map String.toList)
