import Reindex.Command.Arguments
import Reindex.Dependency.Snapshot
import Reindex.Json.Writer
import Reindex.Settings
import Reindex.Text.Quoted
import Reindex.Wire.Settings

namespace Reindex.Command

def linesText (lines : List String) : String := String.join (lines.map (· ++ "\n"))

def documentText (json : Json) : String := json.pretty ++ "\n"

namespace Report

def fieldLine (field : Field) : String :=
  "    " ++ field.name ++ (if field.standalone then " (standalone)" else "")

def indexLines (index : Index) : List String :=
  ("  " ++ index.entity ++ " -> " ++ index.name) :: index.fieldList.map fieldLine

def trackedLine (registry : Registry) (entity : EntityName) : String :=
  "  " ++ entity ++ ": properties [" ++ ", ".intercalate (registry.trackedProperties entity) ++
    "], delete dependencies " ++ toString (registry.backPathsOfDelete entity).length

def inspectText (snapshot : Snapshot) : String :=
  let indexes := snapshot.catalog.indexes
  let registry := snapshot.registry
  linesText
    (("Indexes (" ++ toString indexes.length ++ "):") :: indexes.flatMap indexLines ++
      ["", "Tracked entities (" ++ toString registry.size ++ " facts):"] ++
      registry.trackedEntities.map (trackedLine registry))

def indexJson (settings : SettingsContext) (index : Index) : Json :=
  .object [("affected_entity_types", .strings index.affected.toList),
    ("entity", .string index.entity), ("fields", .strings (index.fieldList.map Field.name)),
    ("index_name", .string index.name),
    ("settings", Settings.mapToJson (settings.effective index.entity))]

def inspectJson (settings : SettingsContext) (snapshot : Snapshot) : Json :=
  let registry := snapshot.registry
  .object [("indexes", .array (snapshot.catalog.indexes.map (indexJson settings))),
    ("tracked", .object (registry.trackedEntities.map
      (fun entity => (entity, .strings (registry.trackedProperties entity)))))]

/-- The document of the changed instance itself is affected along an empty path. -/
def pathText (path : Path) : String := if path.isEmpty then "<self>" else path.dotted

def impactText (title : String) (impact : Impact) : String :=
  if impact.isEmpty then title ++ ": no dependent documents\n"
  else linesText ((title ++ ":") ::
    impact.groups.flatMap (fun (root, paths) =>
      paths.map (fun path => "  " ++ root ++ " via " ++ pathText path)))

def impactJson (impact : Impact) : Json :=
  .object (impact.groups.map (fun (root, paths) => (root, .strings (paths.map Path.dotted))))

def impact (format : Format) (title : String) (impact : Impact) : String :=
  match format with
  | .text => impactText title impact
  | .json => documentText (impactJson impact)

def text (format : Format) (settings : SettingsContext) (snapshot : Snapshot) : Query → String
  | .inspect =>
    match format with
    | .text => inspectText snapshot
    | .json => documentText (inspectJson settings snapshot)
  | .update entity properties =>
    impact format ("update " ++ entity ++ " " ++ Text.quotedList properties)
      (snapshot.impactOfUpdate entity properties)
  | .delete entity => impact format ("delete " ++ entity) (snapshot.impactOfDelete entity)

end Report

end Reindex.Command
