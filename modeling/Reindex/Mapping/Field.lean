import Reindex.Path

namespace Reindex

/-- A field whose value is read along a path. The value of a standalone field comes from code, so
such a field depends on nothing. -/
structure Field where
  name : String
  path : Path
  standalone : Bool
  deriving DecidableEq, Repr

namespace Field

def ofPath (path : Path) : Field := ⟨path.dotted, path, false⟩

def standaloneAt (name : String) (path : Path) : Field := ⟨name, path, true⟩

end Field

end Reindex
