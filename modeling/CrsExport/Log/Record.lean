import CrsExport.Text.Blank
/-! Log records. -/

namespace CrsExport.Log

inductive Level where
  | error
  | warn
  | info
  | debug
  | trace
  deriving DecidableEq, Repr

namespace Level

def rank : Level → Nat
  | error => 1
  | warn => 2
  | info => 3
  | debug => 4
  | trace => 5

def all : List Level := [error, warn, info, debug, trace]

def label : Level → String
  | error => "ERROR"
  | warn => "WARN"
  | info => "INFO"
  | debug => "DEBUG"
  | trace => "TRACE"

end Level

inductive Target where
  | run
  | writer
  | initFile
  | initialization
  | progress
  | statistics
  deriving DecidableEq, Repr

namespace Target

def program : String := "epsg_export"

def path : Target → String
  | run => program ++ "::run"
  | writer => program ++ "::export::writer"
  | initFile => program ++ "::resolver::init_file"
  | initialization => program ++ "::initialization::resolver"
  | progress => program ++ "::app::logging"
  | statistics => program ++ "::app::statistics"

end Target

structure Record where
  level : Level
  target : Target
  message : Text
  deriving DecidableEq, Repr

end CrsExport.Log
