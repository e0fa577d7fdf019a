import Reindex.Change.Event
import Reindex.Change.Request
import Reindex.Instant
import Reindex.Uuid
import Reindex.Wire.Model

namespace Reindex

namespace Change

def toJson : Change → Json
  | created entity id =>
    .object [("type", .string "created"), ("entity", .string entity), ("id", .string id)]
  | updated entity id properties =>
    .object [("type", .string "updated"), ("entity", .string entity), ("id", .string id),
      ("changed_properties", .strings properties)]
  | deleted entity id =>
    .object [("type", .string "deleted"), ("entity", .string entity), ("id", .string id)]

def instance? (json : Json) : Option (EntityName × String) := do
  let given ← Document.slots? false [.plain "entity", .plain "id"] json
  let entity ← Document.required Document.text? "entity" given
  let id ← Document.required Document.text? "id" given
  some (entity, id)

def updated? (json : Json) : Option Change := do
  let given ← Document.slots? false
    [.plain "entity", .plain "id", .plain "changed_properties"] json
  let entity ← Document.required Document.text? "entity" given
  let id ← Document.required Document.text? "id" given
  let properties ← Document.required (Document.list? Document.text?) "changed_properties" given
  some (updated entity id properties)

def ofJson? (json : Json) : Option Change := do
  match ← json.tagged? "type" with
  | ("created", json) => (instance? json).map (fun (entity, id) => created entity id)
  | ("updated", json) => updated? json
  | ("deleted", json) => (instance? json).map (fun (entity, id) => deleted entity id)
  | _ => none

end Change

namespace Operation

def toJson (operation : Operation) : Json := .string operation.name

def ofJson? (json : Json) : Option Operation := (Document.choice? json).bind ofName?

end Operation

namespace Target

def toJson : Target → Json
  | single id => .object [("kind", .string "instance"), ("id", .string id)]
  | dependents backPath changedEntity changedId =>
    .object [("kind", .string "dependents"), ("back_path", backPath.toJson),
      ("changed_entity", .string changedEntity), ("changed_id", .string changedId)]

def single? (json : Json) : Option Target := do
  let given ← Document.slots? false [.plain "id"] json
  (Document.required Document.text? "id" given).map single

def dependents? (json : Json) : Option Target := do
  let given ← Document.slots? false
    [.plain "back_path", .plain "changed_entity", .plain "changed_id"] json
  let backPath ← Document.required Path.ofJson? "back_path" given
  let changedEntity ← Document.required Document.text? "changed_entity" given
  let changedId ← Document.required Document.text? "changed_id" given
  some (dependents backPath changedEntity changedId)

def ofJson? (json : Json) : Option Target := do
  match ← json.tagged? "kind" with
  | ("instance", json) => single? json
  | ("dependents", json) => dependents? json
  | _ => none

end Target

namespace QueueItem

def toJson (item : QueueItem) : Json :=
  .object [("id", .string item.id.text), ("entity", .string item.request.entity),
    ("target", item.request.target.toJson), ("operation", item.request.operation.toJson),
    ("created_at", .string item.createdAt.text)]

def ofJson? (json : Json) : Option QueueItem := do
  let given ← Document.slots? false
    [.plain "id", .plain "entity", .plain "target", .plain "operation", .plain "created_at"] json
  let id ← Document.required (fun j => (Document.text? j).bind Uuid.ofText?) "id" given
  let entity ← Document.required Document.text? "entity" given
  let target ← Document.required Target.ofJson? "target" given
  let operation ← Document.required Operation.ofJson? "operation" given
  let createdAt ← Document.required (fun j => (Document.text? j).bind Instant.ofText?)
    "created_at" given
  some ⟨id, ⟨entity, target, operation⟩, createdAt⟩

end QueueItem

end Reindex
