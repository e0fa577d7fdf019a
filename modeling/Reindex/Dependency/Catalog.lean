import Reindex.Config
import Reindex.Mapping.Index

namespace Reindex

structure DroppedIndex where
  entity : EntityName
  index : String
  keptIndex : String
  keptEntity : EntityName
  deriving DecidableEq, Repr

def DroppedIndex.message (dropped : DroppedIndex) : String :=
  "Multiple index definitions detected for entity '" ++ dropped.entity ++ "' (index '" ++
    dropped.index ++ "'), keeping index '" ++ dropped.keptIndex ++ "' of '" ++
    dropped.keptEntity ++ "'"

/-- Registered indexes, by entity type, by name and in the order of their registration. -/
structure Catalog where
  policy : DuplicatePolicy
  byEntity : Std.ExtTreeMap EntityName Index
  byName : Std.ExtTreeMap String Index
  affected : Std.ExtTreeSet EntityName
  indexes : List Index
  deriving DecidableEq

inductive Registration where
  | added
  | dropped (warning : DroppedIndex)
  deriving DecidableEq

namespace Catalog

variable (catalog : Catalog)

def empty (policy : DuplicatePolicy) : Catalog := ⟨policy, ∅, ∅, ∅, []⟩

instance : Inhabited Catalog := ⟨empty default⟩

def byEntity? (entity : EntityName) : Option Index := catalog.byEntity[entity]?

def byName? (name : String) : Option Index := catalog.byName[name]?

def isDirectlyIndexed (entity : EntityName) : Bool := catalog.byEntity.contains entity

/-- The type has an index of its own or stands on a path of some index. -/
def isAffected (entity : EntityName) : Bool := catalog.affected.contains entity

/-- The registered index that an index collides with, first by entity type and then by name. -/
def collision? (index : Index) : Option Index :=
  (catalog.byEntity? index.entity).or (catalog.byName? index.name)

def extendAffected (entities : List EntityName) : Catalog :=
  { catalog with affected := catalog.affected.insertMany entities }

def add (index : Index) : Catalog :=
  { catalog with
    affected := catalog.affected.insertMany index.affected.toList
    byName := catalog.byName.insert index.name index
    byEntity := catalog.byEntity.insert index.entity index
    indexes := catalog.indexes ++ [index] }

def register (index : Index) : Except TrackingError Registration × Catalog :=
  match catalog.collision? index with
  | some kept =>
    match catalog.policy with
    | .warn => (.ok (.dropped ⟨index.entity, index.name, kept.name, kept.entity⟩), catalog)
    | .reject => (.error (.duplicateDefinition index.entity index.name), catalog)
  | none => (.ok .added, catalog.add index)

end Catalog

end Reindex
