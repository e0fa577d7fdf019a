import Reindex.Schema

namespace Reindex.Schema

variable (schema : Schema)

/-- The paths that the value at the end of a path is read from. A reference to a type without
identity is read as such. -/
def expand (path : Path) : List Path :=
  match path.range?.bind Range.target? with
  | none => [path]
  | some target =>
    match schema.identityOf target with
    | [] => [path]
    | identity => identity.map path.child

end Reindex.Schema
