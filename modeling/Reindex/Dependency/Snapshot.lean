import Reindex.Dependency.Catalog
import Reindex.Dependency.Registry

namespace Reindex

/-- Back paths from the affected roots to the changed instance, by root. -/
abbrev Impact := Buckets EntityName

namespace Impact

variable (impact : Impact)

def add (path : Path) : Impact := Buckets.add impact path.root path

def ofPaths (paths : List Path) : Impact := paths.foldl add ∅

def roots : List EntityName := impact.keys

end Impact

structure Snapshot where
  catalog : Catalog
  registry : Registry
  deriving DecidableEq

namespace Snapshot

variable (snapshot : Snapshot)

def empty : Snapshot := ⟨Catalog.empty default, Registry.empty⟩

instance : Inhabited Snapshot := ⟨empty⟩

def impactOfUpdate (entity : EntityName) (properties : List String) : Impact :=
  Impact.ofPaths (properties.flatMap (snapshot.registry.backPathsOfUpdate entity))

def impactOfDelete (entity : EntityName) : Impact :=
  Impact.ofPaths (snapshot.registry.backPathsOfDelete entity)

def indexNames : List String := snapshot.catalog.indexes.map Index.name

end Snapshot

/-- The current snapshot. Each publication has a number of its own, which tells two publications of
equal snapshots apart. -/
structure Publication where
  number : Nat
  snapshot : Snapshot

namespace Publication

def first (snapshot : Snapshot) : Publication := ⟨0, snapshot⟩

def replace (publication : Publication) (snapshot : Snapshot) : Publication :=
  ⟨publication.number + 1, snapshot⟩

end Publication

end Reindex
