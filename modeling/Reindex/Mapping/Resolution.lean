import Reindex.Config
import Reindex.Mapping.Definition
import Reindex.Mapping.Index
import Reindex.Text.EditDistance

namespace Reindex

namespace Schema

variable (schema : Schema)

def wildcard : String := "*"

def lookup (owner : EntityName) (segment : String) : Except TrackingError Property :=
  match schema.entity? owner with
  | none => .error (.unknownEntity owner)
  | some entity =>
    if segment = wildcard then
      .error (.unknownProperty owner
        (segment ++ " (wildcard is only allowed as the last segment)") none)
    else match entity.property? segment with
      | some property => .ok property
      | none =>
        .error (.unknownProperty owner segment
          (Text.EditDistance.nearest? segment entity.propertyNames))

/-- Follows segments from a path that has reached the type `owner`. -/
def walk (dotted : String) (path : Path) (owner : EntityName) :
    List String → Except TrackingError (List Path)
  | [] => .error (.emptyPath path.root)
  | [last] =>
    if last = wildcard then .ok ((schema.propertiesOf owner).map path.child)
    else (schema.lookup owner last).map (fun hop => [path.child hop])
  | segment :: segments => do
    let hop ← schema.lookup owner segment
    match hop.range.target? with
    | some target => walk dotted (path.child hop) target segments
    | none => .error (.notAReference hop.owner hop.name dotted)

def segments (dotted : String) : List String :=
  (Text.Segments.split '.' dotted.toList).map (fun segment => String.ofList (Text.trim segment))

/-- The paths that a dotted text stands for under a root. -/
def resolve (root : EntityName) (dotted : String) : Except TrackingError (List Path) :=
  if "" ∈ segments dotted then .error (.emptyPath root)
  else schema.walk dotted (Path.ofRoot root) root (segments dotted)

def resolveAll (root : EntityName) (dotted : List String) : Except TrackingError (List Path) :=
  (dotted.mapM (schema.resolve root)).map List.flatten

def standaloneFields (root : EntityName) (declared : List StandaloneField) :
    Except TrackingError (List Field) :=
  (declared.mapM (fun d => (schema.resolve root d.path).map (List.map (Field.standaloneAt d.field)))
    ).map List.flatten

def indexOf (config : Config) (definition : Definition) : Except TrackingError Index := do
  let root := definition.entity
  if (schema.entity? root).isNone then .error (.unknownEntity root)
  let included ← schema.resolveAll root definition.included
  let excluded ← schema.resolveAll root definition.excluded
  let kept := included.filter (fun path => !excluded.any path.startsWith)
  let standalone ← schema.standaloneFields root definition.standalone
  Index.ofFields root (definition.indexName.getD (config.indexNameOf root))
    (kept.map Field.ofPath ++ standalone)

end Schema

end Reindex
