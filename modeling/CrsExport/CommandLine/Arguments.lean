import CrsExport.CommandLine.Error
import CrsExport.Environment.Basic
/-! Reading the arguments of a command. Arguments are looked at from left to right; a value
is checked when the next setting or a call for help has been recognized, or at the end. The
environment gives the settings that no argument gives. -/

namespace CrsExport

inductive HelpKind where
  | short
  | long
  deriving DecidableEq, Repr

inductive Request where
  | run (config : Config)
  | help (kind : HelpKind)
  deriving DecidableEq, Repr

namespace CommandLine

def readCode (s : Setting) (value : Text) : Except UsageError Code :=
  match Text.readInt value with
  | .error fault => .error (.badCode s value (.numeral fault))
  | .ok n =>
    if 0 ≤ n ∧ n ≤ Code.greatest then .ok (UInt32.ofNat n.toNat)
    else .error (.badCode s value (.outOfRange n))

def readPath (s : Setting) (value : Text) : Except UsageError Text :=
  if value.isEmpty then .error (.missingValue s) else .ok value

def readLabel {α : Type} (s : Setting) (values : List α) (label : α → Text) (value : Text) :
    Except UsageError α :=
  if value.isEmpty then .error (.missingValue s)
  else
    match values.find? fun v => label v == value with
    | some v => .ok v
    | none => .error (.badChoice s value)

def assign (config : Config) (s : Setting) (value : Text) : Except UsageError Config :=
  match s with
  | .output => (readPath s value).map ({ config with output := · })
  | .start => (readCode s value).map ({ config with start := · })
  | .stop => (readCode s value).map ({ config with stop := · })
  | .source =>
    (readLabel s [.builtin, .initFile] (text ·.label) value).map ({ config with source := · })
  | .definitions => (readPath s value).map ({ config with definitions := some · })
  | .refinements => (readPath s value).map ({ config with refinements := some · })
  | .logLevel =>
    (readLabel s Log.Level.all (fun l => (text l.label).map Char.toLower) value).map
      ({ config with logLevel := · })
  | .logFormat =>
    (readLabel s [.plain, .json] (text ·.label) value).map ({ config with logFormat := · })

inductive Word where
  | escape
  | long (name : Text) (value : Option Text)
  | short (letter : Char)
  | bare
  deriving DecidableEq, Repr

def Word.ofArgument : Text → Word
  | ['-', '-'] => .escape
  | '-' :: '-' :: rest =>
    match Text.splitFirst '=' rest with
    | some (name, value) => .long name (some value)
    | none => .long rest none
  | '-' :: letter :: _ => .short letter
  | _ => .bare

structure Progress where
  config : Config := {}
  given : List Setting := []
  pending : Option (Setting × Option Text) := none
  deriving DecidableEq, Repr

namespace Progress

def take (p : Progress) (s : Setting) (value : Text) : Except UsageError Progress :=
  if s ∈ p.given then .error (.repeated s)
  else (assign p.config s value).map fun config => { config, given := s :: p.given }

def settle (p : Progress) : Except UsageError Progress :=
  match p.pending with
  | none => .ok p
  | some (s, none) => .error (.missingValue s)
  | some (s, some value) => p.take s value

def awaits? (p : Progress) : Option Setting :=
  match p.pending with
  | some (s, none) => some s
  | _ => none

end Progress

def helpFlag : Text := text "--help"

def callForHelp (p : Progress) (kind : HelpKind) : Except UsageError HelpKind :=
  p.settle.map fun _ => kind

def readEscaped (p : Progress) : List Text → Except UsageError Progress
  | [] => p.settle
  | argument :: _ => .error (.unknownArgument argument)

def readArguments (p : Progress) : List Text → Except UsageError (HelpKind ⊕ Progress)
  | [] => p.settle.map .inr
  | argument :: rest =>
    match Word.ofArgument argument with
    | .escape => (readEscaped p rest).map .inr
    | .short 'h' => (callForHelp p .short).map .inl
    | .short letter => .error (.unknownArgument ['-', letter])
    | .bare =>
      match p.awaits? with
      | some s => readArguments { p with pending := some (s, some argument) } rest
      | none => .error (.unknownArgument argument)
    | .long name value =>
      if text "--" ++ name = helpFlag then
        match value with
        | some v => .error (.unwantedValue helpFlag v)
        | none => (callForHelp p .long).map .inl
      else
        match Setting.ofName? name, value with
        | none, _ => .error (.unknownArgument (text "--" ++ name))
        | some s, none =>
          match p.settle with
          | .error e => .error e
          | .ok p => readArguments { p with pending := some (s, none) } rest
        | some s, some v =>
          match p.settle.bind (·.take s v) with
          | .error e => .error e
          | .ok p => readArguments p rest

def fromEnvironment (env : Environment) (given : List Setting) (config : Config)
    (s : Setting) : Except UsageError Config :=
  match env.get? s.variableName with
  | some value => if s ∈ given then .ok config else assign config s value
  | none => .ok config

def read (arguments : List Text) (env : Environment) : Except UsageError Request :=
  match readArguments {} arguments with
  | .error e => .error e
  | .ok (.inl kind) => .ok (.help kind)
  | .ok (.inr p) =>
    (Setting.all.foldlM (fromEnvironment env p.given) p.config).map .run

end CommandLine
end CrsExport
