import CrsExport.Unicode.Character
import CrsExport.Text.Numeral
/-! Text between double quotes for people to read: what cannot be seen is written as an
escape. -/

namespace CrsExport.Text

def ofNatHex (n : Nat) : Text := Nat.toDigits 16 n

def quoteChar (c : Char) : Text :=
  match c with
  | '\x00' => text "\\0"
  | '\t' => text "\\t"
  | '\r' => text "\\r"
  | '\n' => text "\\n"
  | '"' => text "\\\""
  | '\\' => text "\\\\"
  | c =>
    if Unicode.unseen.hasChar c then text "\\u\x7b" ++ ofNatHex c.toNat ++ text "\x7d"
    else [c]

def quote (t : Text) : Text := '"' :: t.flatMap quoteChar ++ ['"']

end CrsExport.Text
