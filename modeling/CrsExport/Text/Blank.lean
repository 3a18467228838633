/-! Blank characters and what is cut at them. A definition, an init file and a code
list are all read with the same idea of blank: the Unicode property White_Space. -/

namespace CrsExport

abbrev Text := List Char

abbrev text (s : String) : Text := s.toList

namespace Text

/-- The characters with the Unicode property White_Space. U+200B, U+FEFF and the
separators U+001C to U+001F do not have it. -/
def isBlank (c : Char) : Bool :=
  let n := c.toNat
  (0x09 ≤ n && n ≤ 0x0D) || n == 0x20 || n == 0x85 || n == 0xA0 || n == 0x1680 ||
    (0x2000 ≤ n && n ≤ 0x200A) || n == 0x2028 || n == 0x2029 || n == 0x202F ||
    n == 0x205F || n == 0x3000

def trimStart (t : Text) : Text := t.dropWhile isBlank

def trimEnd (t : Text) : Text := (t.reverse.dropWhile isBlank).reverse

def trim (t : Text) : Text := trimEnd (trimStart t)

def splitWhen (cut : Char → Bool) (t : Text) : List Text :=
  t.foldr (fun c pieces => if cut c then [] :: pieces else pieces.modifyHead (c :: ·)) [[]]

def splitFirst (sep : Char) (t : Text) : Option (Text × Text) :=
  match t.dropWhile (· != sep) with
  | [] => none
  | _ :: after => some (t.takeWhile (· != sep), after)

def words (t : Text) : List Text :=
  (splitWhen isBlank t).filter (fun w => !w.isEmpty)

def ofWords (ws : List Text) : Text := [' '].intercalate ws

def lines (t : Text) : List Text :=
  let pieces := splitWhen (· == '\n') t
  let ended := pieces.dropLast.map fun l =>
    if l.getLast? = some '\r' then l.dropLast else l
  match pieces.getLast? with
  | some [] | none => ended
  | some last => ended ++ [last]

theorem splitWhenEmpty (cut : Char → Bool) : splitWhen cut [] = [[]] := rfl

theorem splitWhenCons (cut : Char → Bool) (c : Char) (t : Text) :
    splitWhen cut (c :: t) =
      if cut c then [] :: splitWhen cut t else (splitWhen cut t).modifyHead (c :: ·) := rfl

theorem splitWhenInhabited (cut : Char → Bool) (t : Text) : splitWhen cut t ≠ [] := by
  induction t with
  | nil => simp [splitWhenEmpty]
  | cons c t ih => rw [splitWhenCons]; split <;> simp_all

end Text
end CrsExport
