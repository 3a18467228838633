import CrsExport.CommandLine.Arguments
/-! The help of the command, in a short and a long form. -/

namespace CrsExport.Help

def unlines (ls : List Text) : Text := ls.flatMap (· ++ ['\n'])

def literal (t : Text) : Text := Terminal.paint [.bold] t

def heading (t : String) : Text := Terminal.paint [.bold, .underline] (text t)

def widest : Nat := (Setting.all.map fun s => s.usage.length).foldl max 0

def indent : Text := List.replicate 10 ' '

def gap : Text := List.replicate (widest + 8) ' '

def hang (blanks t : Text) : Text :=
  t.flatMap fun c => if c = '\n' then '\n' :: blanks else [c]

def summary : String :=
  "Writes the PROJ definition of every resolvable EPSG code to a CSV file."

def introduction : List String := [
  "Export configuration.",
  "",
  "Parsed from the command line by `clap`, but can also be constructed programmatically " ++
    "through [`Default`].",
  "",
  "# Examples",
  "",
  "```bash # Full scan with the built-in database epsg_export",
  "",
  "# Only the geographic 2D range, into a custom file epsg_export --start 4000 --end 5000 " ++
    "--output geographic.csv",
  "",
  "# Use a PROJ init file instead of the built-in database epsg_export --source init-file " ++
    "--definitions /usr/share/proj/epsg ```",
  "",
  "```no_run use epsg_export::Config; use std::path::PathBuf;",
  "",
  "let config = Config \x7b output: PathBuf::from(\"out.csv\"), start: 4000, end: 5000, " ++
    "..Default::default() \x7d; ```"]

def usage : List Text :=
  [[], heading "Usage:" ++ [' '] ++ literal (text "epsg_export") ++ text " [OPTIONS]", [],
    heading "Options:"]

def note (label : String) (value : Text) : Text :=
  ['['] ++ text label ++ text ": " ++ value ++ [']']

def notes (env : Environment) (s : Setting) : List Text :=
  note "env" (s.variableName ++ ['='] ++ (env.get? s.variableName).getD []) ::
    (s.default?.map (note "default")).toList

def choiceNote (s : Setting) : List Text :=
  if s.choices.isEmpty then []
  else [note "possible values" ((text ", ").intercalate (s.choices.map fun c => text c.name))]

def padding (width : Nat) (t : Text) : Text := List.replicate (width - t.length) ' '

def shortEntry (env : Environment) (s : Setting) : Text :=
  text "      " ++ literal s.flag ++ [' '] ++ s.placeholder ++ padding (widest + 2) s.usage ++
    [' '].intercalate
      (text s.description :: ((notes env s).map (hang gap) ++ choiceNote s))

def choiceLines (choices : List Choice) : List Text :=
  let width := (choices.map fun c => c.name.length).foldl max 0
  if choices.isEmpty then []
  else [] :: (indent ++ text "Possible values:") :: choices.map fun c =>
    indent ++ text "- " ++ literal (text c.name) ++ [':'] ++
      padding (width + 1) (text c.name) ++ text c.description

def longEntry (env : Environment) (s : Setting) : List Text :=
  (text "      " ++ literal s.flag ++ [' '] ++ s.placeholder) ::
    (indent ++ text s.description) ::
    (choiceLines s.choices ++ indent ::
      (notes env s).map (fun n => indent ++ hang indent n) ++ [[]])

def helpFlags : Text :=
  text "  " ++ literal (text "-h") ++ text ", " ++ literal CommandLine.helpFlag

def message (env : Environment) : HelpKind → Text
  | .short =>
    unlines (text summary :: (usage ++ Setting.all.map (shortEntry env) ++
      [helpFlags ++ padding (widest + 2) CommandLine.helpFlag ++
        text "Print help (see more with '--help')"]))
  | .long =>
    unlines (introduction.map text ++ usage ++ Setting.all.flatMap (longEntry env) ++
      [helpFlags, indent ++ text "Print help (see a summary with '-h')"])

end CrsExport.Help
