import Std.Data.ExtTreeMap
import Std.Data.ExtTreeSet
import Reindex.Error
import Reindex.Mapping.Field

namespace Reindex

structure Index where
  entity : EntityName
  name : String
  fields : Std.ExtTreeMap String Field
  affected : Std.ExtTreeSet EntityName
  deriving DecidableEq

namespace Index

variable (index : Index)

def bare (entity : EntityName) (name : String) : Index :=
  ⟨entity, name, ∅, (∅ : Std.ExtTreeSet EntityName).insert entity⟩

def field? (name : String) : Option Field := index.fields[name]?

def fieldList : List Field := index.fields.values

def trackedFields : List Field := index.fieldList.filter (fun field => !field.standalone)

def affect (entities : List EntityName) : Index :=
  { index with affected := index.affected.insertMany entities }

def insertField (field : Field) : Index :=
  { index with fields := index.fields.insert field.name field }

/-- The types that a field leads to are collected before its name is looked up. -/
def addField (field : Field) : Except TrackingError Index :=
  if field.path.isEmpty then .error (.emptyPath index.entity)
  else if field.path.root ≠ index.entity then
    .error (.foreignRoot index.entity field.name field.path.root)
  else
    let index := index.affect field.path.targets
    match index.field? field.name with
    | none => .ok (index.insertField field)
    | some other =>
      if other = field then .ok index else .error (.duplicateField index.entity field.name)

/-- The index with these fields; the first field that does not fit decides the error. -/
def ofFields (entity : EntityName) (name : String) (fields : List Field) :
    Except TrackingError Index :=
  fields.foldlM addField (bare entity name)

end Index

end Reindex
