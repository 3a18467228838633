import CrsExport.Text.Blank
/-! Text as bytes in UTF-8. -/

namespace CrsExport.Text

def utf8 (t : Text) : List UInt8 := t.flatMap String.utf8EncodeChar

def ofUtf8? (bytes : List UInt8) : Option Text :=
  (String.fromUTF8? ⟨bytes.toArray⟩).map String.toList

end CrsExport.Text
