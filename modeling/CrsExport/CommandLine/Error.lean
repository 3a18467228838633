import CrsExport.CommandLine.Setting
import CrsExport.Terminal.Paint
import CrsExport.Text.Signed
/-! What can be wrong with a command line. -/

namespace CrsExport

inductive CodeFault where
  | numeral (fault : Text.NumeralFault)
  | outOfRange (value : Int)
  deriving DecidableEq, Repr

def CodeFault.message : CodeFault → Text
  | numeral fault => text fault.message
  | outOfRange n =>
    Text.ofInt n ++ text " is not in 0..=" ++ Text.ofNat Code.greatest

inductive UsageError where
  | badCode (setting : Setting) (value : Text) (fault : CodeFault)
  | badChoice (setting : Setting) (value : Text)
  | missingValue (setting : Setting)
  | repeated (setting : Setting)
  | unknownArgument (argument : Text)
  | unwantedValue (flag value : Text)
  deriving DecidableEq, Repr

namespace UsageError

def culprit (t : Text) : Text := ['\''] ++ Terminal.paint [.yellow] t ++ ['\'']

def literal (t : Text) : Text := ['\''] ++ Terminal.paint [.bold] t ++ ['\'']

def details : UsageError → Text
  | badCode s value fault =>
    text "invalid value " ++ culprit value ++ text " for " ++ literal s.usage ++ text ": " ++
      fault.message
  | badChoice s value =>
    text "invalid value " ++ culprit value ++ text " for " ++ literal s.usage
  | missingValue s =>
    text "a value is required for " ++ culprit s.usage ++ text " but none was supplied"
  | repeated s =>
    text "the argument " ++ culprit s.usage ++ text " cannot be used multiple times"
  | unknownArgument a => text "unexpected argument " ++ culprit a ++ text " found"
  | unwantedValue flag value =>
    text "unexpected value " ++ culprit value ++ text " for " ++ literal flag ++
      text " found; no more were expected"

def message (e : UsageError) : Text :=
  Terminal.paint [.bold, .red] (text "error:") ++ [' '] ++ e.details

end UsageError
end CrsExport
