import Reindex.Error
import Reindex.Wire.Model

namespace Reindex

variable {δ : Type} [Document δ]

structure PropertyForm where
  name : String
  kind : Option ScalarKind
  reference : Option EntityName
  many : Bool
  deriving DecidableEq, Repr

namespace PropertyForm

def read? (document : δ) : Option PropertyForm := do
  let given ← Document.slots? true
    [.plain "name", .defaulted "type", .defaulted "reference", .defaulted "many"] document
  let name ← Document.required Document.text? "name" given
  let kind ← Document.optional ScalarKind.read? "type" given
  let reference ← Document.optional Document.text? "reference" given
  let many ← Document.defaulted Document.flag? false "many" given
  some ⟨name, kind, reference, many⟩

def toJson (form : PropertyForm) : Json :=
  .object (("name", .string form.name) ::
    (form.kind.map (fun kind => ("type", kind.toJson))).toList ++
    (form.reference.map (fun target => ("reference", Json.string target))).toList ++
    [("many", .bool form.many)])

def toProperty (owner : EntityName) (form : PropertyForm) : Except SchemaFault Property :=
  match form.kind, form.reference with
  | some kind, none =>
    if form.many then .error (.manyScalars owner form.name)
    else .ok ⟨owner, form.name, .scalar kind⟩
  | none, some target =>
    .ok ⟨owner, form.name, .reference target (if form.many then .many else .one)⟩
  | _, _ => .error (.ambiguousRange owner form.name)

end PropertyForm

structure EntityForm where
  name : EntityName
  identity : List String
  properties : List PropertyForm
  deriving DecidableEq, Repr

namespace EntityForm

def read? (document : δ) : Option EntityForm := do
  let given ← Document.slots? true
    [.plain "name", .defaulted "instance_name", .defaulted "properties"] document
  let name ← Document.required Document.text? "name" given
  let identity ← Document.defaulted (Document.list? Document.text?) [] "instance_name" given
  let properties ← Document.defaulted (Document.list? PropertyForm.read?) [] "properties" given
  some ⟨name, identity, properties⟩

def toJson (form : EntityForm) : Json :=
  .object [("name", .string form.name), ("instance_name", .strings form.identity),
    ("properties", .array (form.properties.map PropertyForm.toJson))]

def toEntity (form : EntityForm) : Except SchemaFault Entity := do
  let properties ← form.properties.mapM (PropertyForm.toProperty form.name)
  .ok ⟨form.name, properties, form.identity⟩

end EntityForm

structure SchemaFile where
  version : Option UInt32
  entities : List EntityForm
  deriving DecidableEq, Repr

namespace SchemaFile

def read? (document : δ) : Option SchemaFile := do
  let given ← Document.slots? true [.plain "version", .defaulted "entities"] document
  let version ← Document.optional Document.word32? "version" given
  let entities ← Document.defaulted (Document.list? EntityForm.read?) [] "entities" given
  some ⟨version, entities⟩

def toJson (file : SchemaFile) : Json :=
  .object [("version", (file.version.map (fun v => Json.nat v.toNat)).getD .null),
    ("entities", .array (file.entities.map EntityForm.toJson))]

def toSchema (file : SchemaFile) : Except SchemaFault Schema := do
  Schema.ofEntities (← file.entities.mapM EntityForm.toEntity)

end SchemaFile

namespace Schema

def ofFile (file : SchemaFile) : Except TrackingError Schema :=
  match ConfigError.checkVersion file.version with
  | .error error => .error (.config error)
  | .ok () => file.toSchema.mapError .invalidSchema

end Schema

end Reindex
