import CrsExport.Definition.Normal
/-! Resolvers: where the definition of a code comes from. -/

namespace CrsExport

structure ReferenceSystem where
  code : Code
  proj4 : Text
  wkt : Option Text
  deriving DecidableEq, Repr

/-- A source of definitions. Unless it says otherwise, the definition that it hands out is
the normal form of the stored one, refused under the code of the stored system. -/
structure Resolver where
  name : Text
  resolve : Code → Except ResolveError ReferenceSystem
  toProjString : ReferenceSystem → Except ResolveError Text :=
    fun crs => Definition.normalize crs.code crs.proj4

end CrsExport
