import CrsExport.Text.Utf8
/-! The text form of tables: fields between commas, records that end in a line feed. A field
with a comma, a quote or a line end in it stands between quotes, and its quotes are
doubled. -/

namespace CrsExport.Csv

def quote : UInt8 := 0x22

def comma : UInt8 := 0x2C

def lineFeed : UInt8 := 0x0A

def carriageReturn : UInt8 := 0x0D

abbrev Piece := List UInt8

def needsQuotes (field : List UInt8) : Bool :=
  field.any fun b => b == comma || b == quote || b == lineFeed || b == carriageReturn

def escape (b : UInt8) : Piece := if b == quote then [quote, quote] else [b]

def fieldPieces (field : List UInt8) : List Piece :=
  if needsQuotes field then [quote] :: field.map escape ++ [[quote]]
  else field.map fun b => [b]

def recordPieces (first second : List UInt8) : List Piece :=
  fieldPieces first ++ [comma] :: fieldPieces second ++ [[lineFeed]]

def record (first second : List UInt8) : List UInt8 := (recordPieces first second).flatten

def document (records : List (List UInt8 × List UInt8)) : List UInt8 :=
  records.flatMap fun r => record r.1 r.2

end CrsExport.Csv
