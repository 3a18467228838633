import CrsExport.Csv.Document
/-! Reading documents back. Quotes count at the start of a field only; inside a quoted field
two quotes stand for one, and the first lone one ends the quoted part. A record ends at a
line feed, a carriage return or both, and a line without anything on it is no record. -/

namespace CrsExport.Csv

inductive FieldState where
  | start
  | plain
  | quoted
  | quoteInQuoted
  deriving DecidableEq, Repr

structure Reading where
  state : FieldState := .start
  field : List UInt8 := []
  fields : List (List UInt8) := []
  records : List (List (List UInt8)) := []
  deriving DecidableEq, Repr

namespace Reading

def endField (r : Reading) : Reading :=
  { r with state := .start, field := [], fields := r.field.reverse :: r.fields }

def endRecord (r : Reading) : Reading :=
  if r.state = .start ∧ r.fields = [] then r
  else
    let r := r.endField
    { r with fields := [], records := r.fields.reverse :: r.records }

def plainByte (r : Reading) (b : UInt8) : Reading :=
  if b = comma then r.endField
  else if b = lineFeed ∨ b = carriageReturn then r.endRecord
  else { r with state := .plain, field := b :: r.field }

def byte (r : Reading) (b : UInt8) : Reading :=
  match r.state with
  | .start => if b = quote then { r with state := .quoted } else r.plainByte b
  | .plain => r.plainByte b
  | .quoted =>
    if b = quote then { r with state := .quoteInQuoted }
    else { r with field := b :: r.field }
  | .quoteInQuoted =>
    if b = quote then { r with state := .quoted, field := b :: r.field }
    else r.plainByte b

end Reading

def readRecords (bytes : List UInt8) : List (List (List UInt8)) :=
  (bytes.foldl Reading.byte {}).endRecord.records.reverse

def evenRecords {α : Type} : List (List α) → Bool
  | [] => true
  | first :: rest => rest.all (·.length == first.length)

def readTexts? (bytes : List UInt8) : Option (List (List Text)) :=
  let records := readRecords bytes
  if evenRecords records then records.mapM (·.mapM Text.ofUtf8?) else none

end CrsExport.Csv
