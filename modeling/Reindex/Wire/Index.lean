import Reindex.Mapping.Index
import Reindex.Wire.Model

namespace Reindex

namespace Field

def toJson (field : Field) : Json :=
  .object [("field_name", .string field.name), ("property_path", field.path.toJson),
    ("standalone", .bool field.standalone)]

end Field

namespace Index

def toJson (index : Index) : Json :=
  .object [("entity_name", .string index.entity), ("index_name", .string index.name),
    ("fields", .object (index.fields.toList.map (fun (name, field) => (name, field.toJson)))),
    ("affected_entity_types", .strings index.affected.toList)]

end Index

end Reindex
