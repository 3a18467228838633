import CrsExport.Text.Numeral
/-! Faults of files and streams. -/

namespace CrsExport

inductive FileFault where
  | notFound
  | isDirectory
  | notDirectory
  | alreadyThere
  | notEmpty
  | nameTooLong
  | nulInPath
  | notUtf8
  | writeZero
  | other (message : Text)
  deriving DecidableEq, Repr

namespace FileFault

def numbered (wording : String) (number : Nat) : Text :=
  text wording ++ text " (os error " ++ Text.ofNat number ++ text ")"

def message : FileFault → Text
  | notFound => numbered "No such file or directory" 2
  | isDirectory => numbered "Is a directory" 21
  | notDirectory => numbered "Not a directory" 20
  | alreadyThere => numbered "File exists" 17
  | notEmpty => numbered "Directory not empty" 39
  | nameTooLong => numbered "File name too long" 36
  | nulInPath => text "file name contained an unexpected NUL byte"
  | notUtf8 => text "stream did not contain valid UTF-8"
  | writeZero => text "failed to write whole buffer"
  | other m => m

end FileFault
end CrsExport
