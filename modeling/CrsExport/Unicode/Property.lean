import CrsExport.Unicode.GeneralCategory
import CrsExport.Unicode.Script
import CrsExport.Unicode.BinaryProperty
/-! Properties by name. Names match loosely: case, spaces, hyphens, underscores and a
leading "is" do not count. Derived properties are computed from the listed ones by the
equations that define them. -/

namespace CrsExport.Unicode.Property

/-- The form of a name in which loosely equal names are equal. What is left of a name that
begins with "is" may not be the single letter c, which is taken for the name "isc". -/
def loose (name : Text) : Text :=
  let lower (t : Text) := (t.filter fun c => c.toNat < 0x80 && c != ' ' && c != '_' &&
    c != '-').map Char.toLower
  match name with
  | a :: b :: rest =>
    if a.toLower == 'i' && b.toLower == 's' then
      let short := lower rest
      if short == ['c'] then text "isc" else short
    else lower name
  | _ => lower name

def oneOf (name : Text) (names : List String) : Bool :=
  names.any fun n => loose (text n) == name

def findTable (entries : List (List String × List String)) (name : Text) : Option CodePointSet :=
  (entries.find? fun e => oneOf name e.1).map fun e => .ofTable e.2

def categories (names : List String) : CodePointSet :=
  .unions (names.map fun n =>
    if n == "Cn" then (CodePointSet.unions
      (GeneralCategory.assigned.map fun e => .ofTable e.2)).complement
    else (findTable GeneralCategory.assigned (loose (text n))).getD .empty)

def generalCategory (name : Text) : Option (Option CodePointSet) :=
  if name == text "any" then some (some .all)
  else if name == text "assigned" then some (some (categories ["Cn"]).complement)
  else if name == text "ascii" then some (some (.ofSpans [(0, 0x7F)]))
  else if oneOf name GeneralCategory.unassignedNames then some (some (categories ["Cn"]))
  else if oneOf name GeneralCategory.surrogateNames then some none
  else match GeneralCategory.groups.find? fun g => oneOf name g.1 with
    | some g => some (some (categories g.2))
    | none => (findTable GeneralCategory.assigned name).map some

def script (name : Text) : Option (Option CodePointSet) :=
  match findTable Script.entries name with
  | some s => some (some s)
  | none => if Script.bare.any (oneOf name) then some none else none

def scriptExtensions (name : Text) : Option (Option CodePointSet) :=
  match Script.entries.find? fun e => oneOf name e.1 with
  | some e =>
    match Script.extensions.find? fun x => e.1.contains x.1 with
    | some x => some (some (.ofTable x.2))
    | none => some (some (.ofTable e.2))
  | none => if Script.bare.any (oneOf name) then some none else none

def listed (name : String) : CodePointSet :=
  (findTable BinaryProperty.entries (loose (text name))).getD .empty

def derived : List (List String × (Unit → CodePointSet)) :=
  let lowercase (_ : Unit) := (categories ["Ll"]).union (listed "OLower")
  let uppercase (_ : Unit) := (categories ["Lu"]).union (listed "OUpper")
  let extend (_ : Unit) := (categories ["Me", "Mn"]).union (listed "OGr_Ext")
  let syntactic (_ : Unit) := (listed "Pat_Syn").union (listed "Pat_WS")
  let idStart (_ : Unit) :=
    ((categories ["Lu", "Ll", "Lt", "Lm", "Lo", "Nl"]).union (listed "OIDS")).diff
      (syntactic ())
  let idContinue (_ : Unit) :=
    (CodePointSet.unions [idStart (), categories ["Mn", "Mc", "Nd", "Pc"],
      listed "OIDC"]).diff (syntactic ())
  let composed := CodePointSet.ofTable ["37A 309B-309C FC5E-FC63 FDFA-FDFB",
    "FE70 FE72 FE74 FE76 FE78 FE7A FE7C FE7E"]
  let composedStart := CodePointSet.ofTable ["E33 EB3 FF9E-FF9F"]
  [(["Alpha", "Alphabetic"], fun _ => .unions [lowercase (), uppercase (),
      categories ["Lt", "Lm", "Lo", "Nl"], listed "OAlpha"]),
   (["Lower", "Lowercase"], lowercase),
   (["Upper", "Uppercase"], uppercase),
   (["Cased"], fun _ => .unions [lowercase (), uppercase (), categories ["Lt"]]),
   (["CI", "Case_Ignorable"], fun _ => (categories ["Mn", "Me", "Cf", "Lm", "Sk"]).union
      (.ofTable ["27 2E 3A B7 387 55F 5F4 2018-2019 2024 2027",
        "FE13 FE52 FE55 FF07 FF0E FF1A"])),
   (["CWCM", "Changes_When_Casemapped"], fun _ => .unions [listed "CWL", listed "CWT",
      listed "CWU"]),
   (["DI", "Default_Ignorable_Code_Point"], fun _ =>
      (CodePointSet.unions [listed "ODI", categories ["Cf"], listed "VS"]).diff
        (.unions [listed "WSpace", listed "PCM", .ofTable ["FFF9-FFFB 13430-13440"]])),
   (["Gr_Ext", "Grapheme_Extend"], extend),
   (["Gr_Base", "Grapheme_Base"], fun _ =>
      ((categories ["Cc", "Cf", "Cs", "Co", "Cn", "Zl", "Zp"]).union
        (extend ())).complement),
   (["IDS", "ID_Start"], idStart),
   (["IDC", "ID_Continue"], idContinue),
   (["XIDS", "XID_Start"], fun _ => (idStart ()).diff (composed.union composedStart)),
   (["XIDC", "XID_Continue"], fun _ => (idContinue ()).diff composed),
   (["Math"], fun _ => (categories ["Sm"]).union (listed "OMath"))]

def binary (name : Text) : Option CodePointSet :=
  match derived.find? fun e => oneOf name e.1 with
  | some e => some (e.2 ())
  | none => findTable BinaryProperty.entries name

def having (name : String) : CodePointSet := (binary (loose (text name))).getD .empty

def decimalDigits : CodePointSet := categories ["Nd"]

def whiteSpace : CodePointSet := listed "WSpace"

def wordCharacters : CodePointSet :=
  .unions [having "Alphabetic", categories ["Mn", "Mc", "Me", "Nd", "Pc"], listed "Join_C"]

end CrsExport.Unicode.Property
