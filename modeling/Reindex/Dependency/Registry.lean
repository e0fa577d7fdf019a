import Reindex.Dependency.Buckets
import Reindex.Dependency.Fact

namespace Reindex

/-- Back paths by what changes: a property of an entity type, or the existence of an instance. -/
structure Registry where
  updates : Std.ExtTreeMap EntityName (Buckets String)
  deletions : Buckets EntityName
  deriving DecidableEq

namespace Registry

variable (registry : Registry)

def empty : Registry := ⟨∅, ∅⟩

instance : Inhabited Registry := ⟨empty⟩

def insertUpdate (fact : UpdateFact) : Registry :=
  { registry with
    updates := registry.updates.insert fact.entity
      ((registry.updates.getD fact.entity ∅).add fact.property fact.backPath) }

def insertDeletion (fact : DeleteFact) : Registry :=
  { registry with deletions := registry.deletions.add fact.entity fact.backPath }

/-- Records both facts of an entry; known facts change nothing. -/
def insert (entry : Entry) : Registry :=
  match entry.deletion with
  | none => registry.insertUpdate entry.update
  | some fact => (registry.insertUpdate entry.update).insertDeletion fact

def insertAll (entries : List Entry) : Registry := entries.foldl insert registry

def backPathsOfUpdate (entity : EntityName) (property : String) : List Path :=
  (registry.updates.getD entity ∅).under property

def backPathsOfDelete (entity : EntityName) : List Path := registry.deletions.under entity

def trackedProperties (entity : EntityName) : List String := (registry.updates.getD entity ∅).keys

def trackedEntities : List EntityName :=
  (Std.ExtTreeSet.ofList (registry.updates.keys ++ registry.deletions.keys)).toList

def size : Nat :=
  registry.updates.values.foldr (fun properties size => properties.size + size) 0 +
    registry.deletions.size

end Registry

end Reindex
