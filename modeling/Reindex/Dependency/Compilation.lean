import Reindex.Dependency.Expansion
import Reindex.Dependency.Snapshot
import Reindex.Mapping.Resolution

namespace Reindex

/-- The outcome of a compilation, and the indexes dropped until then. -/
structure Build where
  dropped : List DroppedIndex
  outcome : Except TrackingError Snapshot

namespace Compilation

variable (schema : Schema) (config : Config)

def revisited? (seen : List (EntityName × String)) : List Property → Option Property
  | [] => none
  | hop :: hops =>
    if (hop.owner, hop.name) ∈ seen then some hop
    else revisited? ((hop.owner, hop.name) :: seen) hops

/-- A path must respect the length limit and cross no property twice. -/
def pathFault? (path : Path) : Option TrackingError :=
  if config.pathLimit.toNat < path.length then
    some (.pathTooDeep path.root path.dotted path.length config.pathLimit.toNat)
  else (revisited? [] path.hops).map
    (fun hop => .mappingCycle path.root path.dotted hop.owner hop.name)

def checked (path : Path) : Except TrackingError Path :=
  match pathFault? config path with
  | some error => .error error
  | none => .ok path

def effectivePaths (index : Index) : List Path :=
  index.trackedFields.flatMap (fun field => schema.expand field.path)

def checkedPaths (index : Index) : Except TrackingError (List Path) :=
  (effectivePaths schema index).mapM (checked config)

/-- The snapshot extended by the paths of an index that its new catalog holds. -/
def extend (snapshot : Snapshot) (catalog : Catalog) (paths : List Path) : Snapshot where
  catalog := catalog.extendAffected (paths.flatMap Path.targets)
  registry := snapshot.registry.insertAll (paths.flatMap Entry.chain)

def compileFrom (snapshot : Snapshot) : List Index → Build
  | [] => ⟨[], .ok snapshot⟩
  | index :: indexes =>
    match checkedPaths schema config index with
    | .error error => ⟨[], .error error⟩
    | .ok paths =>
      match snapshot.catalog.register index with
      | (.error error, _) => ⟨[], .error error⟩
      | (.ok (.dropped warning), catalog) =>
        let build := compileFrom { snapshot with catalog } indexes
        ⟨warning :: build.dropped, build.outcome⟩
      | (.ok .added, catalog) => compileFrom (extend snapshot catalog paths) indexes

def compile (indexes : List Index) : Build :=
  match config.fault? with
  | some fault => ⟨[], .error (.config fault)⟩
  | none => compileFrom schema config ⟨Catalog.empty config.duplicates, Registry.empty⟩ indexes

def compileDefinitions (definitions : List Definition) : Build :=
  match definitions.mapM (schema.indexOf config) with
  | .error error => ⟨[], .error error⟩
  | .ok indexes => compile schema config indexes

end Compilation

end Reindex
