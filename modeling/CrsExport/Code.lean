import CrsExport.Text.Numeral
/-! EPSG codes. -/

namespace CrsExport

abbrev Code := UInt32

namespace Code

def greatest : Nat := 4294967295

def toText (c : Code) : Text := Text.ofNat c.toNat

def read (t : Text) : Option Code := (Text.readNat greatest t).map UInt32.ofNat

end Code
end CrsExport
