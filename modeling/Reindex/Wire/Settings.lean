import Reindex.Config
import Reindex.Json.Document

namespace Reindex

variable {δ : Type} [Document δ]

namespace DuplicatePolicy

def toJson (policy : DuplicatePolicy) : Json := .string policy.name

def read? (document : δ) : Option DuplicatePolicy := (Document.choice? document).bind ofName?

end DuplicatePolicy

namespace Settings

def mapToJson (map : SettingMap) : Json :=
  .object (map.toList.map (fun (key, value) => (key, value.val)))

def toJson (settings : Settings) : Json :=
  let common := if settings.common.isEmpty then []
    else [("common", mapToJson settings.common)]
  let entities := if settings.entities.isEmpty then []
    else [("entities", Json.object (settings.entities.toList.map
      (fun (entity, map) => (entity, mapToJson map))))]
  .object (common ++ entities)

def readMap? (document : δ) : Option SettingMap := Document.map? Document.value? document

def read? (document : δ) : Option Settings := do
  let given ← Document.slots? true [.defaulted "common", .defaulted "entities"] document
  let common ← Document.defaulted readMap? ∅ "common" given
  let entities ← Document.defaulted (Document.map? readMap?) ∅ "entities" given
  some ⟨common, entities⟩

end Settings

end Reindex
