import Reindex.Entity

namespace Reindex

structure StandaloneField where
  field : String
  path : String
  deriving DecidableEq, Repr

/-- An index of one root entity type: the paths to include, those to leave out together with all
that extends them, and fields whose values come from code. -/
structure Definition where
  entity : EntityName
  indexName : Option String
  included : List String
  excluded : List String
  standalone : List StandaloneField
  deriving DecidableEq, Repr

end Reindex
