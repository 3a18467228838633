import CrsExport.Text.Blank
/-! The order of the parameters of a definition. A parameter is known by its key, the part
of its word before the first equals sign; a later word for a key takes the place of the
earlier one. -/

namespace CrsExport.Definition

def key (word : Text) : Text := word.takeWhile (· != '=')

def put (ws : List Text) (word : Text) : List Text :=
  if ws.any (fun w => key w == key word) then
    ws.map (fun w => if key w == key word then word else w)
  else ws ++ [word]

def settle (ws : List Text) : List Text := ws.foldl put []

def keyOf (name : Text) : Text := '+' :: name

/-- The words of the parameters that `order` names, in that order. A name that stands
twice in `order` yields its word twice. -/
def listed (order : List Text) (ws : List Text) : List Text :=
  order.filterMap fun name => ws.find? fun w => key w == keyOf name

def unlisted (order : List Text) (ws : List Text) : List Text :=
  ws.filter fun w => !order.any fun name => key w == keyOf name

def reorder (order : List Text) (definition : Text) : Text :=
  let ws := settle (Text.words definition)
  Text.ofWords (listed order ws ++ unlisted order ws)

end CrsExport.Definition
