import Std.Data.ExtTreeMap
import Reindex.Path

namespace Reindex

inductive SchemaFault where
  | entityTwice (entity : EntityName)
  | propertyTwice (entity : EntityName) (property : String)
  | foreignProperty (entity : EntityName) (property : String) (owner : EntityName)
  | unknownTarget (property : Property) (target : EntityName)
  | undeclaredIdentity (entity : EntityName) (property : String)
  | manyScalars (entity : EntityName) (property : String)
  | ambiguousRange (entity : EntityName) (property : String)
  | other (description : String)
  deriving DecidableEq, Repr

namespace SchemaFault

def message : SchemaFault → String
  | entityTwice entity => "entity '" ++ entity ++ "' declared twice"
  | propertyTwice entity property =>
    "property '" ++ property ++ "' declared twice on entity '" ++ entity ++ "'"
  | foreignProperty entity property owner =>
    "property '" ++ property ++ "' is listed on '" ++ entity ++ "' but owned by '" ++ owner ++ "'"
  | unknownTarget property target =>
    "property '" ++ property.display ++ "' references unknown entity '" ++ target ++ "'"
  | undeclaredIdentity entity property =>
    "instance name of '" ++ entity ++ "' uses undeclared property '" ++ property ++ "'"
  | manyScalars entity property =>
    "scalar property '" ++ entity ++ "." ++ property ++ "' cannot be 'many'"
  | ambiguousRange entity property =>
    "property '" ++ entity ++ "." ++ property ++ "' needs exactly one of 'type' or 'reference'"
  | other description => description

end SchemaFault

/-- Entity types, each under its own name. -/
@[ext]
structure Declarations where
  entities : Std.ExtTreeMap EntityName Entity
  keyed : ∀ {name : EntityName} {entity : Entity},
    entities[name]? = some entity → entity.name = name

namespace Declarations

def empty : Declarations := ⟨∅, by simp⟩

variable (table : Declarations)

def entity? (name : EntityName) : Option Entity := table.entities[name]?

def insert (entity : Entity) : Declarations where
  entities := table.entities.insert entity.name entity
  keyed := by
    intro name found hfound
    by_cases hname : entity.name = name
    · obtain rfl : entity = found := by simpa [hname] using hfound
      exact hname
    · refine table.keyed ?_
      simpa [Std.ExtTreeMap.getElem?_insert, hname] using hfound

def declare (table : Declarations) : List Entity → Except SchemaFault Declarations
  | [] => .ok table
  | entity :: entities =>
    if (table.entity? entity.name).isSome then .error (.entityTwice entity.name)
    else declare (table.insert entity) entities

/-- The first fault among the properties that follow those named in `seen`. -/
def propertyFault? (entity : EntityName) (seen : List String) :
    List Property → Option SchemaFault
  | [] => none
  | property :: properties =>
    if property.name ∈ seen then some (.propertyTwice entity property.name)
    else if property.owner ≠ entity then
      some (.foreignProperty entity property.name property.owner)
    else match property.range.target? with
      | some target =>
        if (table.entity? target).isSome
        then propertyFault? entity (property.name :: seen) properties
        else some (.unknownTarget property target)
      | none => propertyFault? entity (property.name :: seen) properties

def entityFault? (entity : Entity) : Option SchemaFault :=
  match table.propertyFault? entity.name [] entity.properties with
  | some fault => some fault
  | none =>
    (entity.identity.find? (fun name => (entity.property? name).isNone)).map
      (SchemaFault.undeclaredIdentity entity.name)

def fault? : Option SchemaFault := table.entities.values.findSome? table.entityFault?

end Declarations

/-- Declarations that have passed the check. -/
@[ext]
structure Schema extends Declarations where
  faultless : toDeclarations.fault? = none

namespace Schema

def empty : Schema := ⟨.empty, rfl⟩

instance : Inhabited Schema := ⟨empty⟩

def ofEntities (entities : List Entity) : Except SchemaFault Schema :=
  match Declarations.empty.declare entities with
  | .error fault => .error fault
  | .ok table =>
    match hfault : table.fault? with
    | some fault => .error fault
    | none => .ok ⟨table, hfault⟩

variable (schema : Schema)

def size : Nat := schema.entities.size

def names : List EntityName := schema.entities.keys

def propertiesOf (name : EntityName) : List Property :=
  ((schema.entity? name).map Entity.properties).getD []

def identityOf (name : EntityName) : List Property :=
  ((schema.entity? name).map Entity.identityProperties).getD []

def property? (entity : EntityName) (property : String) : Option Property :=
  (schema.entity? entity).bind (fun e => e.property? property)

end Schema

end Reindex
