import Reindex.Json.Document
import Reindex.Path

namespace Reindex

variable {δ : Type} [Document δ]

namespace ScalarKind

def toJson (kind : ScalarKind) : Json := .string kind.name

def read? (document : δ) : Option ScalarKind := (Document.choice? document).bind ofName?

end ScalarKind

namespace Cardinality

def toJson (cardinality : Cardinality) : Json := .string cardinality.name

def read? (document : δ) : Option Cardinality := (Document.choice? document).bind ofName?

end Cardinality

namespace Range

def toJson : Range → Json
  | scalar kind => .object [("scalar", kind.toJson)]
  | reference target cardinality =>
    .object [("reference", .object [("target", .string target),
      ("cardinality", cardinality.toJson)])]

def ofReference? (content : Json) : Option Range := do
  let given ← Document.slots? false [.plain "target", .plain "cardinality"] content
  let target ← Document.required Document.text? "target" given
  let cardinality ← Document.required Cardinality.read? "cardinality" given
  some (reference target cardinality)

def ofJson? (json : Json) : Option Range := do
  match ← json.alternative? with
  | ("scalar", content) => (ScalarKind.read? content).map scalar
  | ("reference", content) => ofReference? content
  | _ => none

end Range

namespace Property

def toJson (property : Property) : Json :=
  .object [("domain", .string property.owner), ("name", .string property.name),
    ("range", property.range.toJson)]

def ofJson? (json : Json) : Option Property := do
  let given ← Document.slots? false [.plain "domain", .plain "name", .plain "range"] json
  let owner ← Document.required Document.text? "domain" given
  let name ← Document.required Document.text? "name" given
  let range ← Document.required Range.ofJson? "range" given
  some ⟨owner, name, range⟩

end Property

namespace Entity

def toJson (entity : Entity) : Json :=
  .object [("name", .string entity.name),
    ("properties", .array (entity.properties.map Property.toJson)),
    ("instance_name", .strings entity.identity)]

def ofJson? (json : Json) : Option Entity := do
  let given ← Document.slots? false
    [.plain "name", .plain "properties", .plain "instance_name"] json
  let name ← Document.required Document.text? "name" given
  let properties ← Document.required (Document.list? Property.ofJson?) "properties" given
  let identity ← Document.required (Document.list? Document.text?) "instance_name" given
  some ⟨name, properties, identity⟩

end Entity

namespace Path

def toJson (path : Path) : Json :=
  .object [("root", .string path.root), ("hops", .array (path.hops.map Property.toJson))]

/-- The hops of the path read need not chain. -/
def ofJson? (json : Json) : Option Path := do
  let given ← Document.slots? false [.plain "root", .plain "hops"] json
  let root ← Document.required Document.text? "root" given
  let hops ← Document.required (Document.list? Property.ofJson?) "hops" given
  some ⟨root, hops⟩

end Path

end Reindex
