import CrsExport.Log.Event
import CrsExport.Log.Filter
import CrsExport.Log.Format
import CrsExport.Terminal.Stream
/-! What is written of the events of a run: which records, in which form, and whether in
colors. -/

namespace CrsExport.Log

def filterVariable : Text := text "RUST_LOG"

def styleVariable : Text := text "RUST_LOG_STYLE"

def wantsColors (env : Environment) : Bool :=
  (env.get? Terminal.forceVariable).any (· != ['0'])

def keepsColors (env : Environment) : Bool :=
  let style := env.get? styleVariable
  style == some (text "always") ||
    (style != some (text "never") && Terminal.keepsEffects env)

structure Output where
  filter : Filter
  format : Format
  colors : Bool
  keeps : Bool
  warnings : Text

namespace Output

def variableNames : List Text := [filterVariable, styleVariable] ++ Terminal.variableNames

def ofSettings (env : Environment) (level : Level) (format : Format) : Output :=
  let (filter, faults) :=
    match env.get? filterVariable with
    | some t => Filter.read t
    | none => ({}, [])
  { filter := filter.withLevel level, format
    colors := wantsColors env
    keeps := keepsColors env
    warnings := faults.flatMap FilterFault.warning }

def lines (o : Output) (times : Times) (stamp : Stamp) (events : List Event) : Text :=
  ((events.map (·.record times)).filter o.filter.allows).flatMap fun r =>
    Terminal.output o.keeps (line o.format o.colors stamp r)

end Output
end CrsExport.Log
