import CrsExport.Resolver.Basic
/-! The built-in database: stored definitions under codes of 16 bits, and the resolver over
any such database. -/

namespace CrsExport

structure StoredSystem where
  proj4 : String
  wkt : String := ""

abbrev Database := UInt16 → Option StoredSystem

namespace Database

/-- Looks a code up. A code above 65535 is no key, so it is unknown without a look-up. -/
def lookup (db : Database) (code : Code) : Option StoredSystem :=
  if code.toNat < 65536 then db code.toUInt16 else none

def resolver (db : Database) : Resolver where
  name := text "builtin"
  resolve code :=
    match db.lookup code with
    | none => .error (.unknownCode code)
    | some stored =>
      let wkt := Text.trim (text stored.wkt)
      .ok { code, proj4 := text stored.proj4, wkt := if wkt.isEmpty then none else some wkt }

end Database
end CrsExport
