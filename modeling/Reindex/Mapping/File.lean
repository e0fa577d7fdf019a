import Reindex.Error
import Reindex.Json.Document
import Reindex.Mapping.Definition

namespace Reindex

variable {δ : Type} [Document δ]

namespace StandaloneField

def read? (document : δ) : Option StandaloneField := do
  let given ← Document.slots? true [.plain "field", .plain "path"] document
  let field ← Document.required Document.text? "field" given
  let path ← Document.required Document.text? "path" given
  some ⟨field, path⟩

def toJson (field : StandaloneField) : Json :=
  .object [("field", .string field.field), ("path", .string field.path)]

end StandaloneField

namespace Definition

def read? (document : δ) : Option Definition := do
  let given ← Document.slots? true
    [.plain "entity", .defaulted "index_name", .defaulted "include", .defaulted "exclude",
      .defaulted "standalone"] document
  let entity ← Document.required Document.text? "entity" given
  let indexName ← Document.optional Document.text? "index_name" given
  let included ← Document.defaulted (Document.list? Document.text?) [] "include" given
  let excluded ← Document.defaulted (Document.list? Document.text?) [] "exclude" given
  let standalone ← Document.defaulted (Document.list? StandaloneField.read?) [] "standalone" given
  some ⟨entity, indexName, included, excluded, standalone⟩

def toJson (definition : Definition) : Json :=
  .object (("entity", .string definition.entity) ::
    (definition.indexName.map (fun name => ("index_name", Json.string name))).toList ++
    [("include", .strings definition.included), ("exclude", .strings definition.excluded),
      ("standalone", .array (definition.standalone.map StandaloneField.toJson))])

end Definition

structure DefinitionsFile where
  version : Option UInt32
  indexes : List Definition
  deriving DecidableEq, Repr

namespace DefinitionsFile

def read? (document : δ) : Option DefinitionsFile := do
  let given ← Document.slots? true [.plain "version", .defaulted "indexes"] document
  let version ← Document.optional Document.word32? "version" given
  let indexes ← Document.defaulted (Document.list? Definition.read?) [] "indexes" given
  some ⟨version, indexes⟩

def toJson (file : DefinitionsFile) : Json :=
  .object [("version", (file.version.map (fun v => Json.nat v.toNat)).getD .null),
    ("indexes", .array (file.indexes.map Definition.toJson))]

def definitions (file : DefinitionsFile) : Except TrackingError (List Definition) :=
  match ConfigError.checkVersion file.version with
  | .error error => .error (.config error)
  | .ok () => .ok file.indexes

end DefinitionsFile

end Reindex
