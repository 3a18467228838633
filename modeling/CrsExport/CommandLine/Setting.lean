import CrsExport.Config
/-! The settings that the command line and the environment may give, with what is said
about them in the help. -/

namespace CrsExport

inductive Setting where
  | output
  | start
  | stop
  | source
  | definitions
  | refinements
  | logLevel
  | logFormat
  deriving DecidableEq, Repr

structure Choice where
  name : String
  description : String

namespace Setting

def all : List Setting :=
  [output, start, stop, source, definitions, refinements, logLevel, logFormat]

def name : Setting → String
  | output => "output"
  | start => "start"
  | stop => "end"
  | source => "source"
  | definitions => "definitions"
  | refinements => "refinements"
  | logLevel => "log-level"
  | logFormat => "log-format"

def capitals (s : Setting) : Text :=
  (text s.name).map fun c => if c = '-' then '_' else c.toUpper

def flag (s : Setting) : Text := text "--" ++ text s.name

def placeholder (s : Setting) : Text := ['<'] ++ s.capitals ++ ['>']

def usage (s : Setting) : Text := s.flag ++ [' '] ++ s.placeholder

def variableName (s : Setting) : Text := text "EPSG_EXPORT_" ++ s.capitals

def description : Setting → String
  | output => "Output CSV file (created or overwritten)"
  | start => "First code to scan (inclusive, >= 1)"
  | stop => "End of the scan range (exclusive, > start)"
  | source => "Definition source: builtin|init-file"
  | definitions =>
    "PROJ init file with `<code> +proj=... <>` lines (required for init-file)"
  | refinements => "JSON file with PROJ string refinements applied before writing"
  | logLevel => "Log level: error|warn|info|debug|trace"
  | logFormat => "Log format: plain|json"

def choices : Setting → List Choice
  | source => [
    ⟨"builtin", "The EPSG database compiled into the binary"⟩,
    ⟨"init-file", "A PROJ `epsg` init file given with `--definitions`"⟩]
  | logLevel => [
    ⟨"error", "Only error messages"⟩,
    ⟨"warn", "Error and warning messages"⟩,
    ⟨"info", "Error, warning, and informational messages"⟩,
    ⟨"debug", "All messages except trace"⟩,
    ⟨"trace", "All messages including trace (every skipped code is reported here)"⟩]
  | logFormat => [
    ⟨"plain", "Human-readable format with colors (default)"⟩,
    ⟨"json", "Structured JSON format for machine parsing"⟩]
  | _ => []

def default? : Setting → Option Text
  | output => some ({} : Config).output
  | start => some ({} : Config).start.toText
  | stop => some ({} : Config).stop.toText
  | source => some (text ({} : Config).source.label)
  | logLevel => some ((text ({} : Config).logLevel.label).map Char.toLower)
  | logFormat => some (text ({} : Config).logFormat.label)
  | definitions | refinements => none

def ofName? (t : Text) : Option Setting := all.find? fun s => text s.name == t

end Setting
end CrsExport
