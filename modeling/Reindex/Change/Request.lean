import Reindex.Instant
import Reindex.Path
import Reindex.Uuid

namespace Reindex

inductive Operation where
  | index
  | delete
  deriving DecidableEq, Repr

namespace Operation

def name : Operation → String
  | index => "INDEX"
  | delete => "DELETE"

def ofName? : String → Option Operation
  | "INDEX" => some index
  | "DELETE" => some delete
  | _ => none

theorem ofName?_name (operation : Operation) : ofName? operation.name = some operation := by
  cases operation <;> rfl

end Operation

/-- The documents of a request: one instance, or every root that reaches the changed instance along
a back path. -/
inductive Target where
  | single (id : String)
  | dependents (backPath : Path) (changedEntity : EntityName) (changedId : String)
  deriving DecidableEq, Repr

structure Request where
  entity : EntityName
  target : Target
  operation : Operation
  deriving DecidableEq, Repr

namespace Request

def ofInstance (entity : EntityName) (id : String) (operation : Operation) : Request :=
  ⟨entity, .single id, operation⟩

/-- The documents at the root are indexed again, whatever happened to the instance. -/
def ofDependents (root : EntityName) (backPath : Path) (entity : EntityName) (id : String) :
    Request :=
  ⟨root, .dependents backPath entity id, .index⟩

end Request

structure QueueItem where
  id : Uuid
  request : Request
  createdAt : Instant
  deriving DecidableEq

end Reindex
